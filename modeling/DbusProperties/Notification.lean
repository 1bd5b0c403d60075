import DbusProperties.Dispatch

/-! # What `set_properties` tells the bus

* `setProperties_valueChangeOnly`: in `VALUE_CHANGE_ONLY` mode the table becomes the left fold
  of `v` by insert-or-overwrite, and the `PropertiesChanged` signal carries `changedEntries`, the
  change-set in the spec's words. The signal goes out on every call, also with an empty
  change-set, which is the case exactly when every entry of `v` already holds
  (`setProperties_signals_every_call`, `resetting_value_signals`).
* `replay` is a client that starts from the `InterfacesAdded` snapshot and assigns, in order, the
  entries of every change-set. `setPropertiesRun` is a sequence of `set_properties` calls on one
  interface, with the change-sets its signals carry. In `VALUE_CHANGE_ONLY` mode the client keeps
  up with the table (`replay_setPropertiesRun`); in `FORCE` mode the signal carries `v` and the
  table is not written (`force_signal_without_write`).
* The endpoint of the signal is a function-local static, built from the `object_name` of the
  first interface that ever calls `set_properties`: that path addresses every later signal, of
  every object (`propertiesChanged_path_sticks`).
-/

namespace DbusProperties
set_option autoImplicit false

/-! ## The client -/

section Replay
variable {V : Type}

/-- The table of a client that assigns to `snapshot`, in order, the entries of each change-set. -/
def replay (snapshot : FlatMap V) (changeSets : List (List (String × V))) : FlatMap V :=
  changeSets.foldl assignAll snapshot

@[simp] theorem replay_nil (snapshot : FlatMap V) : replay snapshot [] = snapshot := rfl

theorem replay_cons (snapshot : FlatMap V) (updates : List (String × V))
    (changeSets : List (List (String × V))) :
    replay snapshot (updates :: changeSets) = replay (assignAll snapshot updates) changeSets := rfl

end Replay

section ValueChangeOnly
variable {V : Type} [DecidableEq V]

theorem assignAll_changedEntries (table : FlatMap V) (v : List (String × V)) :
    assignAll table (changedEntries table v) = assignAll table v := by
  induction v generalizing table with
  | nil => rfl
  | cons e v ih =>
    rw [changedEntries_cons, assignAll_cons]
    split_ifs with h
    · exact ih _
    · rw [List.nil_append, FlatMap.assign_of_lookup (not_not.1 h)]
      exact ih table

theorem DbusInterface.setProperties_valueChangeOnly_eq (iface : DbusInterface V)
    (v : List (String × V)) :
    iface.setProperties v .valueChangeOnly =
      ({ iface with propertiesMap := assignAll iface.propertiesMap v },
        changedEntries iface.propertiesMap v) := by
  simp [DbusInterface.setProperties, changeLoop_eq]

namespace Server

theorem sent_setProperties_valueChangeOnly (s : Server V) (r : Nat) (v : List (String × V)) :
    (s.setProperties r v .valueChangeOnly).sent = s.sent ++
      [propertiesChangedSignal (s.propertiesChangedPath.getD (s.iface r).objectName)
        (s.iface r).interfaceName (changedEntries (s.iface r).propertiesMap v)] := by
  simp [sent_setProperties, DbusInterface.setProperties_valueChangeOnly_eq]

/-- `set_properties(v, VALUE_CHANGE_ONLY)` on interface `r`: the table becomes the left fold of
`v` by insert-or-overwrite (later entries win, other names keep their values, none is removed),
and the signal carries the entries of `v` that change the table when they come up. -/
theorem setProperties_valueChangeOnly (s : Server V) {r : Nat} (v : List (String × V))
    (hr : r < s.ifaceHeap.length) :
    ((s.setProperties r v .valueChangeOnly).iface r).propertiesMap =
        assignAll (s.iface r).propertiesMap v ∧
      (∀ k, (assignAll (s.iface r).propertiesMap v).lookup k =
        (v.reverse.lookup k).or ((s.iface r).propertiesMap.lookup k)) ∧
      (s.setProperties r v .valueChangeOnly).sent = s.sent ++
        [propertiesChangedSignal (s.propertiesChangedPath.getD (s.iface r).objectName)
          (s.iface r).interfaceName (changedEntries (s.iface r).propertiesMap v)] := by
  refine ⟨?_, lookup_assignAll _ v, sent_setProperties_valueChangeOnly s r v⟩
  simp [iface_setProperties, hr, DbusInterface.setProperties_valueChangeOnly_eq]

/-- Two entries for `x` on the `Properties` interface of `/a`: only the last is kept. -/
theorem setProperties_valueChangeOnly_twice :
    let s : Server Nat := (init.addObject "/a").1
    let v := [("x", 1), ("x", 2)]
    0 < s.ifaceHeap.length ∧
      ((s.setProperties 0 v .valueChangeOnly).iface 0).propertiesMap =
          assignAll (s.iface 0).propertiesMap v ∧
        (∀ k, (assignAll (s.iface 0).propertiesMap v).lookup k =
          (v.reverse.lookup k).or ((s.iface 0).propertiesMap.lookup k)) ∧
        (s.setProperties 0 v .valueChangeOnly).sent = s.sent ++
          [propertiesChangedSignal (s.propertiesChangedPath.getD (s.iface 0).objectName)
            (s.iface 0).interfaceName (changedEntries (s.iface 0).propertiesMap v)] :=
  ⟨by decide, setProperties_valueChangeOnly _ _ (by decide)⟩

/-- In `VALUE_CHANGE_ONLY` mode `set_properties` sends a `PropertiesChanged` signal on every
call, carrying the change-set whether or not it is empty; the change-set is empty exactly when
every entry of `v` already holds in the table. -/
theorem setProperties_signals_every_call (s : Server V) (r : Nat) (v : List (String × V)) :
    (s.setProperties r v .valueChangeOnly).sent = s.sent ++
        [propertiesChangedSignal (s.propertiesChangedPath.getD (s.iface r).objectName)
          (s.iface r).interfaceName (changedEntries (s.iface r).propertiesMap v)] ∧
      (changedEntries (s.iface r).propertiesMap v = [] ↔
        ∀ e ∈ v, (s.iface r).propertiesMap.lookup e.1 = some e.2) :=
  ⟨sent_setProperties_valueChangeOnly s r v, changedEntries_eq_nil_iff _ v⟩

/-- Re-setting `x` of `I` on `/a` to its value `5`, by `set_property` or by `Properties.Set`:
the change-set is empty, and a `PropertiesChanged` signal goes out all the same. -/
theorem resetting_value_signals :
    let s : Server Nat :=
      ((init.addObject "/a").1.addInterface 0 "I").1.setProperty 1 "x" 5 .valueChangeOnly
    changedEntries (s.iface 1).propertiesMap [("x", 5)] = [] ∧
      (s.setProperty 1 "x" 5 .valueChangeOnly).sent =
        s.sent ++ [propertiesChangedSignal "/a" "I" []] ∧
      (s.propertiesSet 0 "I" "x" 5).map Server.sent =
        .ok (s.sent ++ [propertiesChangedSignal "/a" "I" []]) :=
  ⟨by decide, by decide, rfl⟩

end Server

/-! ## Runs of `set_properties` on one interface -/

/-- `set_properties(v, mode)` called on one interface for each `(v, mode)` in turn: the interface
after the calls, and the change-sets of the signals they sent. -/
def setPropertiesRun (iface : DbusInterface V) :
    List (List (String × V) × UpdateType) → DbusInterface V × List (List (String × V))
  | [] => (iface, [])
  | (v, mode) :: calls =>
    let (iface', updates) := iface.setProperties v mode
    let (final, changeSets) := setPropertiesRun iface' calls
    (final, updates :: changeSets)

/-- A client that starts from the table and follows the signals of `VALUE_CHANGE_ONLY` calls holds
the table after them. -/
theorem replay_setPropertiesRun (iface : DbusInterface V)
    (calls : List (List (String × V) × UpdateType)) (h : ∀ c ∈ calls, c.2 = .valueChangeOnly) :
    replay iface.propertiesMap (setPropertiesRun iface calls).2 =
      (setPropertiesRun iface calls).1.propertiesMap := by
  induction calls generalizing iface with
  | nil => rfl
  | cons c calls ih =>
    obtain ⟨v, mode⟩ := c
    obtain rfl : mode = .valueChangeOnly := h _ (List.mem_cons_self _ _)
    have ih' := ih { iface with propertiesMap := assignAll iface.propertiesMap v }
      fun c hc => h c (List.mem_cons_of_mem _ hc)
    simp only [setPropertiesRun, DbusInterface.setProperties_valueChangeOnly_eq, replay_cons,
      assignAll_changedEntries] at ih' ⊢
    exact ih'

/-- Two calls on an empty `I`, the second repeating `x` once unchanged and once changed. -/
theorem replay_setPropertiesRun_twice :
    let calls : List (List (String × Nat) × UpdateType) :=
      [([("x", 1), ("y", 2)], .valueChangeOnly), ([("x", 1), ("x", 3)], .valueChangeOnly)]
    (∀ c ∈ calls, c.2 = .valueChangeOnly) ∧
      replay (DbusInterface.new "I").propertiesMap (setPropertiesRun (DbusInterface.new "I") calls).2 =
        (setPropertiesRun (DbusInterface.new "I") calls).1.propertiesMap :=
  ⟨by decide, replay_setPropertiesRun _ _ (by decide)⟩

end ValueChangeOnly

/-! ## Two slips the signals show -/

namespace Server

/-- `FORCE` sends `v` and writes nothing: on `/a` with an empty interface `I`, a client that
starts from the `InterfacesAdded` snapshot and assigns the change-set holds `x = 1`, and `Get`
finds no `x`. -/
theorem force_signal_without_write :
    let s : Server Nat := ((init.addObject "/a").1.addInterface 0 "I").1
    let s' := s.setProperty 1 "x" 1 .force
    interfacesAddedSignal "/a" "/a" ("I", []) ∈ s.sent ∧
      s'.sent.getLast? = some (propertiesChangedSignal "/a" "I" [("x", 1)]) ∧
      (replay .empty [[("x", 1)]]).lookup "x" = some 1 ∧
      s'.propertiesGet 0 "I" "x" = .error (.runtimeError "property not found") :=
  ⟨by decide, by decide, by decide, rfl⟩

/-- The static endpoint keeps the first caller's path: with `I` on `/a` and on `/b`, setting `x`
on `/a`'s and then on `/b`'s sends the second signal from `/a`. -/
theorem propertiesChanged_path_sticks :
    let s : Server Nat :=
      ((((init.addObject "/a").1.addInterface 0 "I").1.addObject "/b").1.addInterface 1 "I").1
    let s' := (s.setProperty 1 "x" 1 .valueChangeOnly).setProperty 3 "x" 1 .valueChangeOnly
    (s'.object 1).objectName = "/b" ∧ (s'.object 1).interfaces.lookup "I" = some 3 ∧
      s'.sent.getLast? = some (propertiesChangedSignal "/a" "I" [("x", 1)]) := by
  decide

end Server

end DbusProperties
