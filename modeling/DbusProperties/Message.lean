import DbusProperties.FlatMap

/-! # The message layer at the boundary of the object server

`properties.hpp` talks to the bus through `dbus::message`, `dbus::connection` and `dbus::filter`,
declared in other headers of the library. This module models the part of them the object server
uses, after the spec's account of that boundary (§6):

* `DbusValue`: the values `pack` writes and `unpack` reads, one constructor per C++ type the
  server packs, and `other` for any further element type of a user handler; `signature` is
  `element_signature<T>::code`.
* `Message`: type, path, interface, member, the serial a reply answers, and the body;
  `newReturn`, `newSignal` and `pack` build the messages the server sends.
* `unpack`: reading a handler's arguments. A body whose signature is not the one the handler
  expects is the spec's `ArgumentMismatch`. `unpackIntoTuple` is the helper of `properties.hpp`
  around it, which does not call `unpack` for a handler without parameters.
* `Fault`: what a call can throw.

The property values, `dbus_variant`, are a type `V` with decidable equality throughout: the spec
asks of them only that they compare for equality (§3, §4.1), and `set_properties` uses nothing
else.
-/

namespace DbusProperties
set_option autoImplicit false

/-- The signatures of the six value types the server packs itself. -/
def packedSignatures : List String :=
  ["s", "v", "as", "a\x7bsv\x7d", "a\x7bsa\x7bsv\x7d\x7d", "a\x7bsa\x7bsa\x7bsv\x7d\x7d\x7d"]

/-- A value in a message body. -/
inductive DbusValue (V : Type) where
  /-- `std::string` -/
  | string (s : String)
  /-- `dbus_variant` -/
  | variant (v : V)
  /-- `std::vector<std::string>` -/
  | strings (l : List String)
  /-- `std::vector<std::pair<std::string, dbus_variant>>`, a property dictionary -/
  | properties (d : List (String × V))
  /-- interface name to property dictionary, as `InterfacesAdded` carries it -/
  | interfaces (d : List (String × List (String × V)))
  /-- object path to interface dictionary, as `GetManagedObjects` returns it -/
  | objects (d : List (String × List (String × List (String × V))))
  /-- a value of any other element type, by its signature: one that none of the six above has,
  since a C++ type has one signature -/
  | other (signature : {sig : String // sig ∉ packedSignatures}) (payload : Nat)
deriving DecidableEq

/-- `element_signature<T>::code` of the value's C++ type. A `std::pair` inside a vector packs as
a dictionary entry, so the three dictionaries are arrays of `{..}` entries keyed by `s`. -/
def DbusValue.signature {V : Type} : DbusValue V → String
  | .string _ => "s"
  | .variant _ => "v"
  | .strings _ => "as"
  | .properties _ => "a\x7bsv\x7d"
  | .interfaces _ => "a\x7bsa\x7bsv\x7d\x7d"
  | .objects _ => "a\x7bsa\x7bsa\x7bsv\x7d\x7d\x7d"
  | .other s _ => s.1

/-- What a call can throw. -/
inductive Fault where
  /-- `std::runtime_error(what)`, thrown by the `Get`, `GetAll` and `Set` handlers -/
  | runtimeError (what : String)
  /-- an `unpack` whose body does not match the handler's arguments -/
  | argumentMismatch
  /-- anything a user handler throws -/
  | handlerFault (what : String)
deriving DecidableEq

/-- A `dbus::message`, by the fields the object server reads and writes. -/
structure Message (V : Type) where
  type : String
  path : String
  interface : String
  member : String
  serial : Nat
  replySerial : Nat
  body : List (DbusValue V)
deriving DecidableEq

/-- `dbus::endpoint(process_name, path, interface)`. -/
structure Endpoint where
  processName : String
  path : String
  interface : String
deriving DecidableEq

namespace Message
variable {V : Type}

/-- `message::new_return(m)`: an empty method return answering `m`. -/
def newReturn (m : Message V) : Message V :=
  { type := "method_return", path := "", interface := "", member := "", serial := 0,
    replySerial := m.serial, body := [] }

/-- `message::new_signal(endpoint, name)`: an empty signal from the endpoint's path and
interface. -/
def newSignal (e : Endpoint) (name : String) : Message V :=
  { type := "signal", path := e.path, interface := e.interface, member := name, serial := 0,
    replySerial := 0, body := [] }

/-- `m.pack(values...)`: appends to the body, in order. -/
def pack (m : Message V) (values : List (DbusValue V)) : Message V :=
  { m with body := m.body ++ values }

/-- Modelled from the spec: `m.unpack(args...)` reads the body positionally into the handler's
argument types and fails with `ArgumentMismatch` when the payload's arity or types differ
(§4.3 (a)). The types enter by their signatures. -/
def unpack (m : Message V) (signatures : List String) : Except Fault (List (DbusValue V)) :=
  if m.body.map DbusValue.signature = signatures then .ok m.body else .error .argumentMismatch

@[simp] theorem pack_body (m : Message V) (values : List (DbusValue V)) :
    (m.pack values).body = m.body ++ values := rfl

@[simp] theorem newReturn_replySerial (m : Message V) : (newReturn m).replySerial = m.serial := rfl

theorem unpack_eq_ok {m : Message V} {signatures : List String} {args : List (DbusValue V)} :
    m.unpack signatures = .ok args ↔ m.body.map DbusValue.signature = signatures ∧ args = m.body := by
  unfold unpack; split_ifs with h <;> simp [h, eq_comm]

/-- `unpack_into_tuple(t, m)`: `m.unpack` into the elements of the argument tuple; the overload
for the empty tuple reads nothing. -/
def unpackIntoTuple (m : Message V) : List String → Except Fault (List (DbusValue V))
  | [] => .ok []
  | sig :: rest => m.unpack (sig :: rest)

@[simp] theorem unpackIntoTuple_nil (m : Message V) : m.unpackIntoTuple [] = .ok [] := rfl

theorem unpackIntoTuple_eq_ok {m : Message V} {signatures : List String}
    {args : List (DbusValue V)} (h : m.unpackIntoTuple signatures = .ok args) :
    args = m.body.take signatures.length ∧ args.map DbusValue.signature = signatures := by
  cases signatures with
  | nil => cases h; simp
  | cons sig rest =>
    obtain ⟨hb, rfl⟩ := unpack_eq_ok.1 h
    rw [← hb, List.length_map, List.take_length]
    exact ⟨rfl, rfl⟩

end Message

end DbusProperties
