import DbusProperties.Server

/-! # Calls: the `Properties` handlers and the routing of `on_method_call`

* `propertiesGet`, `propertiesGetAll`, `propertiesSet` are the three lambdas of the `DbusObject`
  constructor, on the object they capture. Each throws `std::runtime_error` when a name is not
  found. `GetAll` checks the interface name but then reads the table of `properties_iface`.
* `DbusMethod.call` is `LambdaDbusMethod::call`: `unpack`, apply the handler, pack the result into
  `new_return(m)` and `send` it. `DbusInterface.call`, `DbusObject.call` and `callObjects` (the
  loop of `on_method_call`, with its `break`) look the message's member, interface and path up.
* `onMethodCall` is `DbusObjectServer::on_method_call`: route unless `ec` is set, then re-arm
  the method filter. A fault is an exception: nothing catches it, so it leaves `on_method_call`
  before the re-arm (`onMethodCall_error`).

`routedMethod` is the method the three lookups select, and `callObjects_eq` says the loop and
the two nested `call`s invoke exactly that method's `call`, or nothing. A call that returns has
done nothing, or a handler's work and its one reply (`onMethodCall_ok`); `onMethodCall_outcome`
puts together what `on_method_call` does with every delivered call, counting replies with
`repliesTo`.
-/

namespace DbusProperties
set_option autoImplicit false

theorem bind_eq_ok {ε α β : Type} {x : Except ε α} {f : α → Except ε β} {b : β} :
    x >>= f = .ok b ↔ ∃ a, x = .ok a ∧ f a = .ok b := by
  cases x <;> simp [bind, Except.bind]

theorem map_eq_ok {ε α β : Type} {x : Except ε α} {f : α → β} {b : β} :
    x.map f = .ok b ↔ ∃ a, x = .ok a ∧ f a = b := by
  cases x <;> simp [Except.map]

/-- The method returns in `l` that answer `m`. -/
def repliesTo {V : Type} (m : Message V) (l : List (Message V)) : List (Message V) :=
  l.filter fun x => x.type = "method_return" ∧ x.replySerial = m.serial

namespace Server
variable {V : Type} [DecidableEq V]

/-! ## The `Properties` handlers -/

/-- The `Get` lambda of object `o`. -/
def propertiesGet (s : Server V) (o : Nat) (interfaceName propertyName : String) :
    Except Fault V :=
  match (s.object o).interfaces.lookup interfaceName with
  | none => .error (.runtimeError "interface not found")
  | some r =>
    match (s.iface r).propertiesMap.lookup propertyName with
    | none => .error (.runtimeError "property not found")
    | some v => .ok v

omit [DecidableEq V] in
theorem propertiesGet_eq_ok {s : Server V} {o : Nat} {I p : String} {v : V} :
    s.propertiesGet o I p = .ok v ↔
      ∃ r, (s.object o).interfaces.lookup I = some r ∧ (s.iface r).propertiesMap.lookup p = some v := by
  unfold propertiesGet
  split <;> rename_i hr
  · simp [hr]
  · split <;> simp_all

/-- The `GetAll` lambda of object `o`: after the interface check it iterates
`properties_iface->get_properties_map()`. -/
def propertiesGetAll (s : Server V) (o : Nat) (interfaceName : String) :
    Except Fault (List (String × V)) :=
  match (s.object o).interfaces.lookup interfaceName with
  | none => .error (.runtimeError "interface not found")
  | some _ => .ok (s.iface (s.object o).propertiesIface).propertiesMap.entries

/-- `GetAll` does not read the interface it was asked for: on an object `/a` with an interface
`I` holding `x = 5`, `Get("I", "x")` returns 5 and `GetAll("I")` returns the empty table of
`properties_iface`. -/
theorem getAll_reads_propertiesIface :
    let s : Server Nat :=
      ((init.addObject "/a").1.addInterface 0 "I").1.setProperty 1 "x" 5 .valueChangeOnly
    s.propertiesGet 0 "I" "x" = .ok 5 ∧ s.propertiesGetAll 0 "I" = .ok [] := ⟨rfl, rfl⟩

/-- The `Set` lambda of object `o`: a one-entry `set_properties` in `VALUE_CHANGE_ONLY` mode on
the interface found. -/
def propertiesSet (s : Server V) (o : Nat) (interfaceName propertyName : String) (value : V) :
    Except Fault (Server V) :=
  match (s.object o).interfaces.lookup interfaceName with
  | none => .error (.runtimeError "interface not found")
  | some r => .ok (s.setProperties r [(propertyName, value)] .valueChangeOnly)

/-! ## Method calls -/

/-- `apply(input_args, h)`: the handler on the unpacked arguments, with the state it leaves and
its result tuple. The last case is unreachable behind `unpack`. -/
def applyHandler (s : Server V) : Handler V → List (DbusValue V) →
    Except Fault (Server V × List (DbusValue V))
  | .user run, args => (run args).map fun r => (s, r)
  | .propertiesGet o, [.string i, .string p] => (s.propertiesGet o i p).map fun v => (s, [.variant v])
  | .propertiesGetAll o, [.string i] => (s.propertiesGetAll o i).map fun d => (s, [.properties d])
  | .propertiesSet o, [.string i, .string p, .variant x] =>
    (s.propertiesSet o i p x).map fun s' => (s', [])
  | _, _ => .error .argumentMismatch

/-- `call(m)` of a method: `DbusMethod::call` does nothing; `LambdaDbusMethod::call` unpacks the
arguments (`unpack_into_tuple`), applies the handler and sends the method return carrying its
result (`pack_tuple_into_msg`, which packs nothing for an empty tuple). -/
def callMethod (s : Server V) (method : DbusMethod V) (m : Message V) : Except Fault (Server V) :=
  match method.body with
  | .base => .ok s
  | .lambda inputs _ handler => do
    let args ← m.unpackIntoTuple inputs
    let (s, r) ← s.applyHandler handler args
    pure (s.send ((Message.newReturn m).pack r))

/-- `DbusInterface::call(m)`: the method named by the member; none, no reply. -/
def callInterface (s : Server V) (iface : DbusInterface V) (m : Message V) :
    Except Fault (Server V) :=
  match iface.dbusMethods.lookup m.member with
  | some method => s.callMethod method m
  | none => .ok s

/-- `DbusObject::call(m)`: the interface named by the message; none, no reply. -/
def callObject (s : Server V) (obj : DbusObject) (m : Message V) : Except Fault (Server V) :=
  match obj.interfaces.lookup m.interface with
  | some r => s.callInterface (s.iface r) m
  | none => .ok s

/-- The loop of `on_method_call` over `objects`: the first object whose path is the message's
takes the call, then `break`. -/
def callObjects (s : Server V) (m : Message V) : List Nat → Except Fault (Server V)
  | [] => .ok s
  | o :: rest => if (s.object o).objectName = m.path then s.callObject (s.object o) m
    else s.callObjects m rest

/-- `method_filter->async_dispatch(..)`: the method filter waits for the next call. -/
def rearmMethodFilter (s : Server V) : Server V := { s with methodArmed := true }

/-- `DbusObjectServer::on_method_call(ec, m)`: route unless `ec` is set, then re-arm the method
filter. A fault thrown while routing leaves before the re-arm. -/
def onMethodCall (s : Server V) (ec : Nat) (m : Message V) : Except Fault (Server V) :=
  (if ec ≠ 0 then .ok s else s.callObjects m s.objects).map rearmMethodFilter

/-! ## Routing -/

/-- The method the three lookups select for `m` among the objects `l`: the first object at
`m.path`, its interface `m.interface`, that interface's method `m.member`. -/
def routeIn (s : Server V) (m : Message V) (l : List Nat) : Option (DbusMethod V) :=
  (l.find? fun o => (s.object o).objectName = m.path).bind fun o =>
    ((s.object o).interfaces.lookup m.interface).bind fun r =>
      (s.iface r).dbusMethods.lookup m.member

/-- The method `on_method_call` hands `m` to. -/
def routedMethod (s : Server V) (m : Message V) : Option (DbusMethod V) := s.routeIn m s.objects

/-- The scan of `on_method_call` and the two nested `call`s invoke the `call` of exactly the
routed method, or do nothing. -/
theorem callObjects_eq (s : Server V) (m : Message V) (l : List Nat) :
    s.callObjects m l =
      match s.routeIn m l with
      | some method => s.callMethod method m
      | none => .ok s := by
  induction l with
  | nil => rfl
  | cons o rest ih =>
    by_cases h : (s.object o).objectName = m.path
    · simp only [callObjects, routeIn, h, if_true, List.find?_cons, decide_True,
        Option.some_bind, callObject]
      cases (s.object o).interfaces.lookup m.interface <;> simp [callInterface]
    · simpa [callObjects, routeIn, h] using ih

theorem onMethodCall_zero (s : Server V) (m : Message V) :
    s.onMethodCall 0 m =
      (match s.routedMethod m with
        | some method => s.callMethod method m
        | none => .ok s).map rearmMethodFilter := by
  simp only [onMethodCall, ne_eq, not_true_eq_false, if_false, routedMethod, ← callObjects_eq]

/-- A fault of the routed method escapes `on_method_call`: no reply is sent and the method filter
is not re-armed. -/
theorem onMethodCall_error {s : Server V} {m : Message V} {method : DbusMethod V} {f : Fault}
    (hr : s.routedMethod m = some method) (hf : s.callMethod method m = .error f) :
    s.onMethodCall 0 m = .error f := by
  simp only [onMethodCall_zero, hr, hf]; rfl

/-- `on_method_call` on a delivered message invokes the routed method and re-arms; the routed
method is the one registered as `m.member` on the interface `m.interface` of the first registered
object whose path is exactly `m.path`. -/
theorem onMethodCall_route (s : Server V) (m : Message V) :
    s.onMethodCall 0 m =
      (match s.routedMethod m with
        | some method => s.callMethod method m
        | none => .ok s).map rearmMethodFilter ∧
    ∀ method, s.routedMethod m = some method ↔
      ∃ before after o r, s.objects = before ++ o :: after ∧
        (∀ o' ∈ before, (s.object o').objectName ≠ m.path) ∧
        (s.object o).objectName = m.path ∧
        (m.interface, r) ∈ (s.object o).interfaces.entries ∧
        (m.member, method) ∈ (s.iface r).dbusMethods.entries := by
  refine ⟨onMethodCall_zero s m, fun method => ?_⟩
  simp only [routedMethod, routeIn, Option.bind_eq_some, List.find?_eq_some,
    FlatMap.mem_entries_iff, decide_eq_true_eq]
  constructor
  · rintro ⟨o, ⟨hp, before, after, hl, hb⟩, r, hr, hm⟩
    exact ⟨before, after, o, r, hl, fun o' h => by simpa using hb o' h, hp, hr, hm⟩
  · rintro ⟨before, after, o, r, hl, hb, hp, hr, hm⟩
    exact ⟨o, ⟨hp, before, after, hl, fun o' h => by simpa using hb o' h⟩, r, hr, hm⟩

/-! ## What a call that returns has done -/

theorem applyHandler_ok {s t : Server V} {handler : Handler V} {args r : List (DbusValue V)}
    (h : s.applyHandler handler args = .ok (t, r)) :
    match handler with
    | .user run => t = s ∧ run args = .ok r
    | .propertiesGet _ => t = s ∧ ∃ v, r = [.variant v]
    | .propertiesGetAll _ => t = s ∧ ∃ d, r = [.properties d]
    | .propertiesSet o => (∃ I r' v, (s.object o).interfaces.lookup I = some r' ∧
        t = s.setProperties r' v .valueChangeOnly) ∧ r = [] := by
  unfold applyHandler at h
  split at h
  all_goals first | cases h | skip
  all_goals
    obtain ⟨a, ha, h⟩ := map_eq_ok.1 h
    simp only [Prod.mk.injEq] at h
    obtain ⟨rfl, rfl⟩ := h
  · exact ⟨rfl, ha⟩
  · exact ⟨rfl, a, rfl⟩
  · exact ⟨rfl, a, rfl⟩
  · refine ⟨?_, rfl⟩
    unfold propertiesSet at ha
    split at ha
    · cases ha
    · cases ha; exact ⟨_, _, _, ‹_›, rfl⟩

theorem applyHandler_state {s t : Server V} {handler : Handler V} {args r : List (DbusValue V)}
    (h : s.applyHandler handler args = .ok (t, r)) :
    t = s ∨ ∃ o I r' v, (s.object o).interfaces.lookup I = some r' ∧
      t = s.setProperties r' v .valueChangeOnly := by
  have hok := applyHandler_ok h
  cases handler
  exacts [.inl hok.1, .inl hok.1, .inl hok.1, .inr ⟨_, hok.1⟩]

/-- A delivered call that returns has re-armed the method filter after doing nothing, or after a
handler's work (nothing, or one `set_properties` call on an interface an object binds) and its
reply. -/
theorem onMethodCall_ok {s t : Server V} {ec : Nat} {m : Message V}
    (h : s.onMethodCall ec m = .ok t) :
    t = rearmMethodFilter s ∨
      ∃ s' r, (s' = s ∨ ∃ o I r' v, (s.object o).interfaces.lookup I = some r' ∧
        s' = s.setProperties r' v .valueChangeOnly) ∧
        t = rearmMethodFilter (s'.send ((Message.newReturn m).pack r)) := by
  obtain ⟨t', ht', rfl⟩ := map_eq_ok.1 h
  split_ifs at ht'
  · cases ht'; exact .inl rfl
  · rw [callObjects_eq] at ht'
    split at ht'
    · unfold callMethod at ht'
      split at ht'
      · cases ht'; exact .inl rfl
      · obtain ⟨args, -, ht'⟩ := bind_eq_ok.1 ht'
        obtain ⟨⟨s', r⟩, hs', ht'⟩ := bind_eq_ok.1 ht'
        cases ht'
        exact .inr ⟨s', r, applyHandler_state hs', rfl⟩
    · cases ht'; exact .inl rfl

/-! ## Replies -/

omit [DecidableEq V] in
theorem repliesTo_send_reply (s : Server V) (m : Message V) (r : List (DbusValue V)) :
    repliesTo m (s.send ((Message.newReturn m).pack r)).sent =
      repliesTo m s.sent ++ [(Message.newReturn m).pack r] := by
  simp [repliesTo, send, List.filter_append, Message.newReturn, Message.pack]

theorem repliesTo_setProperties (s : Server V) (m : Message V) (r : Nat) (v : List (String × V))
    (mode : UpdateType) : repliesTo m (s.setProperties r v mode).sent = repliesTo m s.sent := by
  simp [sent_setProperties, repliesTo, List.filter_append, propertiesChangedSignal,
    Message.newSignal, Message.pack]

theorem repliesTo_applyHandler {s t : Server V} {handler : Handler V}
    {args r : List (DbusValue V)} (m : Message V) (h : s.applyHandler handler args = .ok (t, r)) :
    repliesTo m t.sent = repliesTo m s.sent := by
  obtain rfl | ⟨_, _, r', v, -, rfl⟩ := applyHandler_state h
  · rfl
  · exact repliesTo_setProperties s m r' v _

theorem repliesTo_callMethod {s t : Server V} {name : String} {inputs outputs : List String}
    {handler : Handler V} {m : Message V}
    (h : s.callMethod ⟨name, .lambda inputs outputs handler⟩ m = .ok t) :
    ∃ r, repliesTo m t.sent = repliesTo m s.sent ++ [(Message.newReturn m).pack r] := by
  obtain ⟨args, -, h⟩ := bind_eq_ok.1 h
  obtain ⟨⟨t', r⟩, ht', h⟩ := bind_eq_ok.1 h
  cases h
  exact ⟨r, by rw [repliesTo_send_reply, repliesTo_applyHandler m ht']⟩

/-- What `on_method_call` does with a delivered call. A fault of the routed method leaves it
before the re-arm, with no reply; when it returns, the method filter is re-armed, and a
`LambdaDbusMethod` has sent exactly one reply; a call that reaches no method, or a
`DbusMethod` whose `call` does nothing, only re-arms the filter. -/
theorem onMethodCall_outcome (s : Server V) (m : Message V) :
    (∀ method f, s.routedMethod m = some method → s.callMethod method m = .error f →
      s.onMethodCall 0 m = .error f) ∧
    (∀ t, s.onMethodCall 0 m = .ok t → t.methodArmed = true) ∧
    (∀ name inputs outputs handler t,
      s.routedMethod m = some ⟨name, .lambda inputs outputs handler⟩ →
      s.onMethodCall 0 m = .ok t →
      ∃ r, repliesTo m t.sent = repliesTo m s.sent ++ [(Message.newReturn m).pack r]) ∧
    (∀ method, s.routedMethod m = some method → method.body = .base →
      s.onMethodCall 0 m = .ok (rearmMethodFilter s)) ∧
    (s.routedMethod m = none → s.onMethodCall 0 m = .ok (rearmMethodFilter s)) := by
  refine ⟨fun _ _ hr hf => onMethodCall_error hr hf, fun t h => ?_, fun _ _ _ _ t hr h => ?_,
    fun ⟨_, body⟩ hr hb => ?_, fun hr => by simp only [onMethodCall_zero, hr]; rfl⟩
  · obtain ⟨t', -, rfl⟩ := map_eq_ok.1 h
    rfl
  · rw [onMethodCall_zero, hr] at h
    obtain ⟨t', ht', rfl⟩ := map_eq_ok.1 h
    exact (repliesTo_callMethod ht' :)
  · cases hb
    simp only [onMethodCall_zero, hr]
    rfl

end Server

end DbusProperties
