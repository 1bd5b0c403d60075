import DbusProperties.Dispatch
import Mathlib.Data.List.Nodup

/-! # `get_xml_for_path`: the introspection document

The C++ appends text to one string. The model keeps the pieces it appends as `IntrospectItem`s,
in order, and `IntrospectItem.render` writes each one's text exactly as the source spells it, so
`getXmlForPath` is the string the server replies with and `introspectItems` is what it says.

* `introspectItems` normalises `/` to the empty prefix, then runs the loop over `objects`
  (`xmlItems`): an object at exactly the normalised path contributes the fixed `Peer` and
  `ObjectManager` blocks and one block per entry of its interface table; any other object whose
  path starts with it contributes one `<node>` stub, the first time its `subnode` is seen.
* `subnode` is `object_name.substr(newpath.size() + 1, slash_index - newpath.size() - 1)` with
  `slash_index = object_name.find("/", newpath.size() + 1)` (`cutSegment`). It skips one
  character after the prefix whatever that character is. The C++ counts bytes
  (`subnodeBytes`), the model characters; the two agree on ASCII paths (`utf8_subnode`).

`childSegments` is the list of stubs in the spec's words. When every registered path that starts
with the normalised path is that path or continues with `/`, the loop computes it
(`xmlItems_nodes`); a path that only shares a string prefix gets a stub of its own
(`introspect_sibling_prefix_stubs`).

Away from `/`, the `<interface>` blocks list exactly the methods `on_method_call` routes to, with
their `get_args()` (`introspectItems_lists_routed_method`); at `/` the object is missing from the
document (`introspect_root_object_missing`). `IntrospectView` states what a client reads of
these on the parsed document.

`node_names` is a `flat_set`; only membership in it is ever read, so a list stands for it.
The `type` of a property is the signature of the value it holds, `sigOf`.
-/

namespace DbusProperties
set_option autoImplicit false

/-- A piece of the introspection document. -/
inductive IntrospectItem where
  /-- the fixed `org.freedesktop.DBus.Peer` block -/
  | peer
  /-- the fixed `org.freedesktop.DBus.ObjectManager` block -/
  | objectManager
  /-- an `<interface>` block: its methods and signals with their arguments, its properties with
  their types -/
  | interface (name : String) (methods signals : List (String × List DbusArgument))
      (properties : List (String × String))
  /-- a `<node>` stub -/
  | node (name : String)
deriving DecidableEq

namespace IntrospectItem

/-- The name of a `<node>` stub. -/
def nodeName? : IntrospectItem → Option String
  | .node name => some name
  | _ => none

def peerXml : String :=
  "  <interface name=\"org.freedesktop.DBus.Peer\">" ++
  "    <method name=\"Ping\"/>" ++
  "    <method name=\"GetMachineId\">" ++
  "      <arg type=\"s\" name=\"machine_uuid\" direction=\"out\"/>" ++
  "    </method>" ++
  "  </interface>"

def objectManagerXml : String :=
  "  <interface name=\"org.freedesktop.DBus.ObjectManager\">" ++
  "    <method name=\"GetManagedObjects\">" ++
  "      <arg type=\"a\x7boa\x7bsa\x7bsv\x7d\x7d\x7d\" " ++
  "           name=\"object_paths_interfaces_and_properties\" " ++
  "           direction=\"out\"/>" ++
  "    </method>" ++
  "    <signal name=\"InterfacesAdded\">" ++
  "      <arg type=\"o\" name=\"object_path\"/>" ++
  "      <arg type=\"a\x7bsa\x7bsv\x7d\x7d\" " ++
  "name=\"interfaces_and_properties\"/>" ++
  "    </signal>" ++
  "    <signal name=\"InterfacesRemoved\">" ++
  "      <arg type=\"o\" name=\"object_path\"/>" ++
  "      <arg type=\"as\" name=\"interfaces\"/>" ++
  "    </signal>" ++
  "  </interface>"

def methodXml (method : String × List DbusArgument) : String :=
  "<method name=\"" ++ method.1 ++ "\">" ++
    String.join (method.2.map fun a =>
      "<arg name=\"" ++ a.name ++ "\" type=\"" ++ a.type ++ "\" direction=\"" ++ a.direction ++
        "\"/>") ++
    "</method>"

def signalXml (signal : String × List DbusArgument) : String :=
  "<signal name=\"" ++ signal.1 ++ "\">" ++
    String.join (signal.2.map fun a => "<arg name=\"" ++ a.name ++ "\" type=\"" ++ a.type ++ "\"/>") ++
    "</signal>"

def propertyXml (property : String × String) : String :=
  "<property name=\"" ++ property.1 ++ "\" type =\"" ++ property.2 ++ "\" direction =\"" ++
    "readwrite" ++ "\"/>"

/-- The text the loop appends for the item. -/
def render : IntrospectItem → String
  | .peer => peerXml
  | .objectManager => objectManagerXml
  | .interface name methods signals properties =>
    "<interface name=\"" ++ name ++ "\">" ++ String.join (methods.map methodXml) ++
      String.join (signals.map signalXml) ++ String.join (properties.map propertyXml) ++
      "</interface>"
  | .node name => "<node name=\"" ++ name ++ "\">" ++ "</node>"

end IntrospectItem

/-- `s.find(slash, pos)` over the characters or the bytes of a path: the first position at or
after `pos` holding `slash`; `none` is `npos`. -/
def findFrom {α : Type} [BEq α] (s : List α) (slash : α) (pos : Nat) : Option Nat :=
  ((s.drop pos).findIdx? (· == slash)).map (· + pos)

/-- `s.substr(size + 1, s.find(slash, size + 1) - size - 1)`. When `find` gives `npos` the count
exceeds what is left and `substr` takes the rest. -/
def cutSegment {α : Type} [BEq α] (s : List α) (slash : α) (size : Nat) : List α :=
  let start := size + 1
  match findFrom s slash start with
  | some slashIndex => (s.drop start).take (slashIndex - size - 1)
  | none => s.drop start

/-- `subnode`, on characters: `newpath.size()` is taken as the number of characters of the
prefix. The C++ counts bytes (`subnodeBytes`); on an ASCII path the two agree (`utf8_subnode`). -/
def subnode (objectName newpath : String) : String :=
  ⟨cutSegment objectName.data '/' newpath.length⟩

/-- The bytes a `std::string` holds for a name: its UTF-8 encoding. -/
def utf8 (x : String) : List UInt8 := x.data.flatMap String.utf8EncodeChar

/-- `subnode` as the C++ computes it, where `find`, `substr` and `size()` count bytes. -/
def subnodeBytes (objectName newpath : String) : List UInt8 :=
  cutSegment (utf8 objectName) 47 (utf8 newpath).length

theorem cutSegment_eq {α : Type} [BEq α] (s : List α) (slash : α) (size : Nat) :
    cutSegment s slash size = (s.drop (size + 1)).takeWhile fun x => !(x == slash) := by
  rw [List.takeWhile_eq_take_findIdx_not]
  simp only [Bool.not_not, cutSegment, findFrom]
  cases hf : (s.drop (size + 1)).findIdx? (· == slash) with
  | none =>
    simp only [Option.map_none', List.findIdx?_eq_none_iff_findIdx_eq] at hf ⊢
    rw [hf, List.take_length]
  | some i =>
    have e : i + (size + 1) - size - 1 = i := by omega
    simp only [Option.map_some', e, (List.findIdx?_eq_some_iff_findIdx_eq.1 hf).2]

theorem subnode_eq (objectName newpath : String) :
    subnode objectName newpath =
      ⟨(objectName.data.drop (newpath.length + 1)).takeWhile (· ≠ '/')⟩ := by
  simp only [subnode, cutSegment_eq, bne_iff_ne, ne_eq, beq_iff_eq, Bool.not_eq_true']
  congr 2
  funext c
  by_cases h : c = '/' <;> simp [h]

theorem utf8EncodeChar_ascii {c : Char} (h : c.toNat < 128) :
    String.utf8EncodeChar c = [UInt8.ofNat c.toNat] := by
  simp [String.utf8EncodeChar, Char.toNat] at h ⊢
  rw [if_pos (by simpa [UInt32.le_def] using Nat.lt_succ_iff.1 h)]
  rfl

theorem utf8_ascii {l : List Char} (h : ∀ c ∈ l, c.toNat < 128) :
    utf8 ⟨l⟩ = l.map fun c => UInt8.ofNat c.toNat := by
  induction l with
  | nil => rfl
  | cons c l ih =>
    simp only [utf8, List.flatMap_cons, List.map_cons] at ih ⊢
    rw [utf8EncodeChar_ascii (h c (List.mem_cons_self _ _)),
      ih fun c' hc' => h c' (List.mem_cons_of_mem _ hc')]
    rfl

theorem ofNat_eq_slash {c : Char} (hc : c.toNat < 128) (h : UInt8.ofNat c.toNat = 47) :
    c = '/' := by
  have h47 : c.toNat % 256 = 47 := by simpa [UInt8.toNat, UInt8.ofNat] using congrArg UInt8.toNat h
  rw [← Char.ofNat_toNat c, show c.toNat = 47 by omega]

theorem takeWhile_congr_mem {α : Type} {p q : α → Bool} {l : List α} (h : ∀ x ∈ l, p x = q x) :
    l.takeWhile p = l.takeWhile q := by
  induction l with
  | nil => rfl
  | cons x l ih =>
    simp only [List.takeWhile_cons, h x (List.mem_cons_self _ _),
      ih fun y hy => h y (List.mem_cons_of_mem _ hy)]

/-- On an ASCII path, the model's `subnode` is the bytes the C++ computes. -/
theorem utf8_subnode {objectName newpath : String} (hascii : ∀ c ∈ objectName.data, c.toNat < 128)
    (hp : newpath.data.isPrefixOf objectName.data) :
    utf8 (subnode objectName newpath) = subnodeBytes objectName newpath := by
  have hpre := List.isPrefixOf_iff_prefix.1 hp
  have hlen : (utf8 newpath).length = newpath.length := by
    rw [utf8_ascii fun c hc => hascii c (hpre.subset hc), List.length_map, String.length]
  have hslash : ∀ c ∈ objectName.data.drop (newpath.length + 1),
      (!(UInt8.ofNat c.toNat == 47)) = decide (c ≠ '/') := fun c hc => by
    by_cases h : c = '/'
    · subst h; rfl
    · simp [h, mt (ofNat_eq_slash (hascii c (List.mem_of_mem_drop hc))) h]
  rw [subnode_eq, subnodeBytes, hlen, cutSegment_eq, utf8_ascii hascii, ← List.map_drop,
    List.takeWhile_map, utf8_ascii fun c hc => hascii c
      (List.mem_of_mem_drop ((List.takeWhile_sublist _).subset hc))]
  congr 1
  exact takeWhile_congr_mem fun c hc => (hslash c hc).symm

/-- What follows `newpath ++ "/"` in a path that starts so. -/
def remainder? (newpath objectName : String) : Option (List Char) :=
  if (newpath.data ++ ['/']).isPrefixOf objectName.data then
    some (objectName.data.drop (newpath.length + 1))
  else none

/-- The strings of a list, each once, in order of first occurrence, leaving out those `seen`. -/
def firstOccurrences (seen : List String) : List String → List String
  | [] => []
  | x :: xs => if x ∈ seen then firstOccurrences seen xs else x :: firstOccurrences (x :: seen) xs

/-- The `<node>` stubs in the spec's words: the first `/`-segments of the remainders `r` of the
registered paths `newpath ++ "/" ++ r`, each once, in order of first occurrence. -/
def childSegments (newpath : String) (names : List String) : List String :=
  firstOccurrences [] (names.filterMap fun name =>
    (remainder? newpath name).map fun r => ⟨r.takeWhile (· ≠ '/')⟩)

theorem remainder?_self (newpath : String) : remainder? newpath newpath = none := by
  rw [remainder?, if_neg]
  intro h
  have := (List.isPrefixOf_iff_prefix.1 h).length_le
  simp at this

theorem remainder?_of_not_prefix {newpath name : String}
    (h : ¬ newpath.data.isPrefixOf name.data) : remainder? newpath name = none := by
  rw [remainder?, if_neg]
  intro h'
  exact h (List.isPrefixOf_iff_prefix.2
    ((List.prefix_append _ _).trans (List.isPrefixOf_iff_prefix.1 h')))

namespace Server
variable {V : Type}

/-- The `<interface>` block of one entry of an object's interface table. -/
def interfaceItem (sigOf : V → String) (s : Server V) (entry : String × Nat) : IntrospectItem :=
  let i := s.iface entry.2
  .interface entry.1 (i.dbusMethods.entries.map fun p => (p.1, p.2.getArgs))
    (i.dbusSignals.entries.map fun p => (p.1, []))
    (i.propertiesMap.entries.map fun p => (p.1, sigOf p.2))

/-- The loop of `get_xml_for_path` over `objects`, with the `node_names` inserted so far. -/
def xmlItems (sigOf : V → String) (s : Server V) (newpath : String) :
    List String → List Nat → List IntrospectItem
  | _, [] => []
  | nodeNames, o :: rest =>
    let obj := s.object o
    if obj.objectName = newpath then
      .peer :: .objectManager :: obj.interfaces.entries.map (s.interfaceItem sigOf) ++
        s.xmlItems sigOf newpath nodeNames rest
    else if newpath.data.isPrefixOf obj.objectName.data then
      let sub := subnode obj.objectName newpath
      if sub ∈ nodeNames then s.xmlItems sigOf newpath nodeNames rest
      else .node sub :: s.xmlItems sigOf newpath (sub :: nodeNames) rest
    else s.xmlItems sigOf newpath nodeNames rest

/-- The pieces of `get_xml_for_path(path)`, after `/` is normalised to the empty prefix. -/
def introspectItems (sigOf : V → String) (s : Server V) (path : String) : List IntrospectItem :=
  let newpath := if path = "/" then "" else path
  s.xmlItems sigOf newpath [] s.objects

/-- `get_xml_for_path(path)`: the DOCTYPE header and `<node>`, the pieces, `</node>`. -/
def getXmlForPath (sigOf : V → String) (s : Server V) (path : String) : String :=
  "<!DOCTYPE node PUBLIC " ++
    "\"-//freedesktop//DTD D-BUS Object Introspection 1.0//EN\" " ++
    "\"http://www.freedesktop.org/standards/dbus/1.0/" ++
    "introspect.dtd\">\n<node>" ++
    String.join ((s.introspectItems sigOf path).map IntrospectItem.render) ++ "</node>"

/-- `on_introspect(ec, m)`: reply with the document for the message's path, then re-arm the
introspection filter. `ec` is not read. -/
def onIntrospect (sigOf : V → String) (s : Server V) (m : Message V) : Server V :=
  { s.send ((Message.newReturn m).pack [.string (s.getXmlForPath sigOf m.path)]) with
    introspectArmed := true }

/-- Under `/a`, the object `/ab` gives a stub with the empty name and `/abc/d` the stub `c`:
the prefix test does not ask for a `/` after `/a`. -/
theorem introspect_sibling_prefix_stubs :
    let s : Server Nat := (((init.addObject "/a").1.addObject "/ab").1.addObject "/abc/d").1
    (s.introspectItems (fun _ => "i") "/a").filterMap IntrospectItem.nodeName? = ["", "c"] := by
  decide

/-- An object at `/` is never described: `/` becomes the empty prefix, which no path equals, so
introspecting `/` yields only an empty-named stub, while a call to `/` reaches the object's
`Get`. -/
theorem introspect_root_object_missing :
    let s : Server Nat := (init.addObject "/").1
    let m : Message Nat :=
      { type := "method_call", path := "/", interface := propertiesInterface, member := "Get",
        serial := 1, replySerial := 0, body := [] }
    s.introspectItems (fun _ => "i") "/" = [.node ""] ∧ s.routedMethod m = some (getMethod Nat 0) :=
  ⟨by decide, rfl⟩

/-! ## Agreement with routing -/

theorem mem_xmlItems_interface (sigOf : V → String) (s : Server V) (newpath : String)
    {name : String} {methods signals : List (String × List DbusArgument)}
    {properties : List (String × String)} (nodeNames : List String) (l : List Nat) :
    IntrospectItem.interface name methods signals properties ∈
        s.xmlItems sigOf newpath nodeNames l ↔
      ∃ o ∈ l, (s.object o).objectName = newpath ∧ ∃ e ∈ (s.object o).interfaces.entries,
        s.interfaceItem sigOf e = .interface name methods signals properties := by
  induction l generalizing nodeNames with
  | nil => simp [xmlItems]
  | cons o rest ih =>
    simp only [xmlItems]
    split_ifs with h₁ <;> simp [ih, h₁]

/-- Away from the root, the `<interface>` blocks and routing agree when object paths are
distinct. -/
theorem introspectItems_lists_routed_method (sigOf : V → String) (s : Server V) (m : Message V)
    (hP : m.path ≠ "/") (hd : (s.objects.map fun o => (s.object o).objectName).Nodup)
    (args : List DbusArgument) :
    (∃ methods signals properties,
      IntrospectItem.interface m.interface methods signals properties ∈
        s.introspectItems sigOf m.path ∧ (m.member, args) ∈ methods) ↔
      ∃ method, s.routedMethod m = some method ∧ method.getArgs = args := by
  simp only [introspectItems, if_neg hP, mem_xmlItems_interface, routedMethod, routeIn,
    Option.bind_eq_some, interfaceItem, IntrospectItem.interface.injEq]
  constructor
  · rintro ⟨_, _, _, ⟨o, ho, hn, ⟨I, r⟩, he, rfl, rfl, -, -⟩, hm⟩
    obtain ⟨⟨M, method⟩, hmem, hma⟩ := List.mem_map.1 hm
    obtain ⟨rfl, rfl⟩ := Prod.mk.inj hma
    have hs : (s.objects.find? fun o => decide ((s.object o).objectName = m.path)).isSome :=
      List.find?_isSome.2 ⟨o, ho, decide_eq_true hn⟩
    obtain ⟨o', hf⟩ := Option.isSome_iff_exists.1 hs
    obtain rfl : o' = o := List.inj_on_of_nodup_map hd (List.mem_of_find?_eq_some hf) ho
      ((by simpa using List.find?_some hf : (s.object o').objectName = m.path).trans hn.symm)
    exact ⟨method, ⟨o', hf, r, FlatMap.mem_entries_iff.1 he, FlatMap.mem_entries_iff.1 hmem⟩, rfl⟩
  · rintro ⟨method, ⟨o, hf, r, hr, hm⟩, rfl⟩
    exact ⟨_, _, _, ⟨o, List.mem_of_find?_eq_some hf, by simpa using List.find?_some hf,
      (m.interface, r), FlatMap.mem_entries_iff.2 hr, rfl, rfl, rfl, rfl⟩,
      List.mem_map.2 ⟨(m.member, method), FlatMap.mem_entries_iff.2 hm, rfl⟩⟩

/-! ## Node stubs -/

/-- The stubs of the loop, when every path that starts with `newpath` is `newpath` or continues
with `/`. -/
theorem xmlItems_nodes (sigOf : V → String) (s : Server V) (newpath : String) (seen : List String)
    (l : List Nat)
    (h : ∀ o ∈ l, newpath.data.isPrefixOf (s.object o).objectName.data →
      (s.object o).objectName = newpath ∨
        (newpath.data ++ ['/']).isPrefixOf (s.object o).objectName.data) :
    (s.xmlItems sigOf newpath seen l).filterMap IntrospectItem.nodeName? =
      firstOccurrences seen ((l.map fun o => (s.object o).objectName).filterMap fun name =>
        (remainder? newpath name).map fun r => ⟨r.takeWhile (· ≠ '/')⟩) := by
  induction l generalizing seen with
  | nil => rfl
  | cons o rest ih =>
    have ih' := fun seen => ih seen fun o' ho' => h o' (List.mem_cons_of_mem _ ho')
    simp only [xmlItems, List.map_cons, List.filterMap_cons]
    by_cases h₁ : (s.object o).objectName = newpath
    · simp [h₁, remainder?_self, ih', List.filterMap_append, interfaceItem, IntrospectItem.nodeName?]
    · by_cases h₂ : newpath.data.isPrefixOf (s.object o).objectName.data
      · have h₃ := (h o (List.mem_cons_self _ _) h₂).resolve_left h₁
        have hr : (remainder? newpath (s.object o).objectName).map
            (fun r => (⟨r.takeWhile (· ≠ '/')⟩ : String)) =
              some (subnode (s.object o).objectName newpath) := by
          rw [remainder?, if_pos h₃, subnode_eq]; rfl
        simp only [h₁, h₂, if_false, if_true, hr, firstOccurrences]
        split_ifs <;> simp [ih', IntrospectItem.nodeName?]
      · simp [h₁, h₂, remainder?_of_not_prefix h₂, ih']

end Server

end DbusProperties
