import DbusProperties.Message

/-! # `DbusMethod`, `DbusSignal` and the tables of a `DbusInterface`

* `argTypes` is the recursion of `arg_types<I>` over a tuple's element types, and
  `DbusMethod.getArgs` is `LambdaDbusMethod::get_args`: the handler's parameters, then the
  components of its result.
* A method's `call` needs the whole server (the `Properties` handlers read and write other
  interfaces), so only its data lives here: `Handler` says which function a `LambdaDbusMethod`
  wraps, with the object a constructor lambda captures as a position in the object heap.
* `DbusInterface.setProperties` is the table part of `set_properties`: `changeLoop` is its
  `VALUE_CHANGE_ONLY` loop, reading the entry at the iterator `find` returned after the write,
  as the C++ does. `FORCE` returns `v` as the change-set and writes nothing.

The loop is characterised in the spec's terms: the table becomes `assignAll`, the fold of
`m[k] = v` over the entries (`lookup_assignAll`: later entries win, others stay), and the
change-set is `changedEntries`, the entries that are absent or different when they come up
(`changeLoop_eq`).
-/

namespace DbusProperties
set_option autoImplicit false

/-! ## Arguments and methods -/

/-- `DbusArgument`: an argument of a method or signal, as introspection prints it. -/
structure DbusArgument where
  direction : String
  name : String
  type : String
deriving DecidableEq

/-- `arg_types<I>(in, t, v)`: one argument per element type of the tuple from position `I` on,
`{"in", "arg_I", sig}` or `{"out", "out_I", sig}`. The element types enter by their signatures. -/
def argTypes (isIn : Bool) (i : Nat) : List String → List DbusArgument
  | [] => []
  | sig :: rest =>
    (if isIn then ⟨"in", "arg_" ++ toString i, sig⟩ else ⟨"out", "out_" ++ toString i, sig⟩) ::
      argTypes isIn (i + 1) rest

theorem map_type_argTypes (isIn : Bool) (i : Nat) (sigs : List String) :
    (argTypes isIn i sigs).map DbusArgument.type = sigs := by
  induction sigs generalizing i with
  | nil => rfl
  | cons sig rest ih => cases isIn <;> simp [argTypes, ih]

theorem direction_of_mem_argTypes {isIn : Bool} {i : Nat} {sigs : List String} {a : DbusArgument}
    (h : a ∈ argTypes isIn i sigs) : a.direction = if isIn then "in" else "out" := by
  induction sigs generalizing i with
  | nil => cases h
  | cons sig rest ih =>
    rcases List.mem_cons.1 h with rfl | h
    · cases isIn <;> rfl
    · exact ih h

theorem filter_argTypes (isIn : Bool) (i : Nat) (sigs : List String) (d : String) :
    ((argTypes isIn i sigs).filter fun a => a.direction = d).map DbusArgument.type =
      if (if isIn then "in" else "out") = d then sigs else [] := by
  by_cases hd : (if isIn then "in" else "out") = d
  · rw [if_pos hd, List.filter_eq_self.2 fun a ha => by simp [direction_of_mem_argTypes ha, hd],
      map_type_argTypes]
  · rw [if_neg hd, List.filter_eq_nil_iff.2 fun a ha => by simp [direction_of_mem_argTypes ha, hd]]
    rfl

/-- The function a `LambdaDbusMethod` wraps. A user handler is a function of its arguments: one
that also changes state through references it captures, or sends messages itself, is outside the
model, and so is a subclass of `DbusMethod` with a `call()` of its own. -/
inductive Handler (V : Type) where
  /-- a handler given to `register_method(name, handler)`, from its unpacked arguments to its
  result tuple or a fault -/
  | user (run : List (DbusValue V) → Except Fault (List (DbusValue V)))
  /-- the `Get` lambda of the `DbusObject` constructor; `obj` is the object it captures -/
  | propertiesGet (obj : Nat)
  /-- the `GetAll` lambda of the `DbusObject` constructor -/
  | propertiesGetAll (obj : Nat)
  /-- the `Set` lambda of the `DbusObject` constructor -/
  | propertiesSet (obj : Nat)

/-- The two classes a method table holds. -/
inductive MethodBody (V : Type) where
  /-- `DbusMethod` itself: `call` does nothing and `get_args` is empty -/
  | base
  /-- `LambdaDbusMethod<Handler>`: the signatures of the decayed parameter types and of the
  result tuple's components, and the handler -/
  | lambda (inputs outputs : List String) (handler : Handler V)

/-- A `DbusMethod`. -/
structure DbusMethod (V : Type) where
  name : String
  body : MethodBody V

/-- `get_args()`: empty for `DbusMethod`, `arg_types` of the input tuple then of the result
tuple for `LambdaDbusMethod`. -/
def DbusMethod.getArgs {V : Type} (m : DbusMethod V) : List DbusArgument :=
  match m.body with
  | .base => []
  | .lambda inputs outputs _ => argTypes true 0 inputs ++ argTypes false 0 outputs

theorem DbusMethod.filter_getArgs_lambda {V : Type} (name : String) (inputs outputs : List String)
    (handler : Handler V) :
    ((⟨name, .lambda inputs outputs handler⟩ : DbusMethod V).getArgs.filter
        fun a => a.direction = "in").map DbusArgument.type = inputs ∧
      ((⟨name, .lambda inputs outputs handler⟩ : DbusMethod V).getArgs.filter
        fun a => a.direction = "out").map DbusArgument.type = outputs := by
  simp [getArgs, List.filter_append, filter_argTypes]

/-- A `DbusSignal`; its `get_args()` is empty. -/
structure DbusSignal where
  name : String
deriving DecidableEq

/-- `UpdateType`. -/
inductive UpdateType where
  | valueChangeOnly
  | force
deriving DecidableEq

/-! ## Interfaces -/

/-- A `DbusInterface`: the path stamped by `register_interface`, its name, and its three
tables. -/
structure DbusInterface (V : Type) where
  objectName : String
  interfaceName : String
  dbusMethods : FlatMap (DbusMethod V)
  dbusSignals : FlatMap DbusSignal
  propertiesMap : FlatMap V

namespace DbusInterface
variable {V : Type}

/-- `DbusInterface(interface_name, conn)`: `object_name` is empty until registration. -/
def new (name : String) : DbusInterface V := ⟨"", name, .empty, .empty, .empty⟩

@[simp] theorem new_interfaceName (name : String) : (new name : DbusInterface V).interfaceName = name :=
  rfl

instance : Inhabited (DbusInterface V) := ⟨new ""⟩

/-- Both `register_method` overloads: `dbus_methods.emplace(name, method)`, so a name already
taken keeps its method. -/
def registerMethod (iface : DbusInterface V) (method : DbusMethod V) : DbusInterface V :=
  { iface with dbusMethods := iface.dbusMethods.emplace method.name method }

@[simp] theorem registerMethod_propertiesMap (iface : DbusInterface V) (method : DbusMethod V) :
    (iface.registerMethod method).propertiesMap = iface.propertiesMap := rfl

@[simp] theorem registerMethod_interfaceName (iface : DbusInterface V) (method : DbusMethod V) :
    (iface.registerMethod method).interfaceName = iface.interfaceName := rfl

end DbusInterface

/-! ## `set_properties` -/

section Fold
variable {V : Type}

/-- Insert-or-overwrite, entry by entry. -/
def assignAll (table : FlatMap V) (v : List (String × V)) : FlatMap V :=
  v.foldl (fun t e => t.assign e.1 e.2) table

@[simp] theorem assignAll_nil (table : FlatMap V) : assignAll table [] = table := rfl

theorem assignAll_cons (table : FlatMap V) (e : String × V) (v : List (String × V)) :
    assignAll table (e :: v) = assignAll (table.assign e.1 e.2) v := rfl

/-- Later entries win; names `v` does not mention keep their value. -/
theorem lookup_assignAll (table : FlatMap V) (v : List (String × V)) (k : String) :
    (assignAll table v).lookup k = (v.reverse.lookup k).or (table.lookup k) := by
  induction v generalizing table with
  | nil => simp
  | cons e v ih =>
    rw [assignAll_cons, ih, List.reverse_cons, List.lookup_append, FlatMap.lookup_assign]
    obtain ⟨k', x⟩ := e
    by_cases hk : k = k' <;> simp [hk, lookup_cons_ne, Option.or_assoc]

end Fold

section SetProperties
variable {V : Type} [DecidableEq V]

/-- The `VALUE_CHANGE_ONLY` loop of `set_properties` over the table and the `updates` so far. -/
def changeLoop (table : FlatMap V) (updates : List (String × V)) :
    List (String × V) → FlatMap V × List (String × V)
  | [] => (table, updates)
  | (name, value) :: rest =>
    match table.find name with
    | some it =>
      -- `property_map_it->second != property.second`
      if (table.entries[it]?).map Prod.snd ≠ some value then
        let table' := table.assign name value
        -- `updates.emplace_back(*property_map_it)`, read after the write
        changeLoop table' (updates ++ (table'.entries[it]?).toList) rest
      else changeLoop table updates rest
    | none => changeLoop (table.assign name value) (updates ++ [(name, value)]) rest

/-- The table part of `set_properties(v, update_mode)`: the interface with its new table, and
the change-set it packs. -/
def DbusInterface.setProperties (iface : DbusInterface V) (v : List (String × V)) :
    UpdateType → DbusInterface V × List (String × V)
  | .force => (iface, v)
  | .valueChangeOnly =>
    let (table, updates) := changeLoop iface.propertiesMap [] v
    ({ iface with propertiesMap := table }, updates)

/-- The change-set in the spec's words: the entries of `v`, in order, whose name is absent from
the table, or holds another value, at the moment the entry comes up. -/
def changedEntries (table : FlatMap V) (v : List (String × V)) : List (String × V) :=
  ((v.zip (v.scanl (fun t e => t.assign e.1 e.2) table)).filter
    fun p => p.2.lookup p.1.1 ≠ some p.1.2).map Prod.fst

@[simp] theorem changedEntries_nil (table : FlatMap V) : changedEntries table [] = [] := rfl

theorem changedEntries_cons (table : FlatMap V) (e : String × V) (v : List (String × V)) :
    changedEntries table (e :: v) =
      (if table.lookup e.1 ≠ some e.2 then [e] else []) ++
        changedEntries (table.assign e.1 e.2) v := by
  simp only [changedEntries, List.scanl, List.zip_cons_cons, List.filter_cons]
  split_ifs with h <;> simp_all

theorem changedEntries_eq_nil_iff (table : FlatMap V) (v : List (String × V)) :
    changedEntries table v = [] ↔ ∀ e ∈ v, table.lookup e.1 = some e.2 := by
  induction v generalizing table with
  | nil => simp
  | cons e v ih =>
    rw [changedEntries_cons]
    by_cases he : table.lookup e.1 = some e.2
    · rw [if_neg (not_not.2 he), List.nil_append, FlatMap.assign_of_lookup he, ih]
      simp [he]
    · simp [he]

/-- The `VALUE_CHANGE_ONLY` loop writes `assignAll` and appends `changedEntries`. -/
theorem changeLoop_eq (table : FlatMap V) (updates v : List (String × V)) :
    changeLoop table updates v = (assignAll table v, updates ++ changedEntries table v) := by
  induction v generalizing table updates with
  | nil => simp [changeLoop]
  | cons e rest ih =>
    obtain ⟨name, value⟩ := e
    rw [assignAll_cons, changedEntries_cons]
    cases hf : table.find name with
    | none =>
      have hl : table.lookup name = none := FlatMap.find_eq_none_iff.1 hf
      simp [changeLoop, hf, hl, ih]
    | some it =>
      obtain ⟨current, hit, hl⟩ := FlatMap.find_spec hf
      by_cases hv : current = value
      · subst hv
        simp [changeLoop, hf, hit, hl, ih, FlatMap.assign_of_lookup hl]
      · simp [changeLoop, hf, hit, hl, hv, ih, FlatMap.getElem?_assign_of_find value hf]

namespace DbusInterface

@[simp] theorem setProperties_interfaceName (iface : DbusInterface V) (v : List (String × V))
    (mode : UpdateType) : (iface.setProperties v mode).1.interfaceName = iface.interfaceName := by
  cases mode <;> rfl

@[simp] theorem setProperties_objectName (iface : DbusInterface V) (v : List (String × V))
    (mode : UpdateType) : (iface.setProperties v mode).1.objectName = iface.objectName := by
  cases mode <;> rfl

@[simp] theorem setProperties_dbusMethods (iface : DbusInterface V) (v : List (String × V))
    (mode : UpdateType) : (iface.setProperties v mode).1.dbusMethods = iface.dbusMethods := by
  cases mode <;> rfl

theorem setProperties_propertiesMap (iface : DbusInterface V) (v : List (String × V))
    (mode : UpdateType) : (iface.setProperties v mode).1.propertiesMap =
      match mode with
      | .force => iface.propertiesMap
      | .valueChangeOnly => assignAll iface.propertiesMap v := by
  cases mode
  · simp [setProperties, changeLoop_eq]
  · rfl

theorem isSome_lookup_setProperties (iface : DbusInterface V) (v : List (String × V))
    (mode : UpdateType) {k : String} (h : (iface.propertiesMap.lookup k).isSome) :
    ((iface.setProperties v mode).1.propertiesMap.lookup k).isSome := by
  rw [setProperties_propertiesMap]
  cases mode
  · rw [lookup_assignAll]; cases (v.reverse.lookup k) <;> simp [h]
  · exact h

end DbusInterface

end SetProperties

end DbusProperties
