import DbusProperties.Invariant

/-! # `get_args` against `call`: the signatures of a `LambdaDbusMethod`

`LambdaDbusMethod<Handler>` derives two things from the C++ type of its handler,
`(P0, .., Pn-1) → std::tuple<R0, .., Rm-1>`: `get_args()`, by `arg_types` over the decayed
parameter types and then over the result tuple, and `call(m)`, which unpacks the parameters from
the body (`unpack_into_tuple`) and packs the result tuple into the reply
(`pack_tuple_into_msg`). The model keeps a handler's type as the signatures of the `Pi` and of
the `Rj`; `Handler.HasType` says that the handler keeps to them, which C++ typing guarantees of
every handler, and the three handlers of the `DbusObject` constructor keep to theirs
(`wellTyped_getMethod`, `wellTyped_getAllMethod`, `wellTyped_setMethod`).

`getArgs_call_signatures`: the `in` descriptors are `arg_0 .. arg_{n-1}` with the signatures of
the parameters and the `out` descriptors `out_0 .. out_{m-1}` with those of the results, in
order; a `call` that returns has read arguments of the `in` signatures from the front of the body
and sent a reply whose body has the `out` signatures, and a body of other signatures is refused.

Over runs: when every `register_method` is given a handler of the types it is registered with
(`Op.HandlerTyped`), every method in every table has its type (`MethodsTyped`, kept by each
step), so every call `on_method_call` routes and that returns is answered with a reply of the
`out` signatures `get_args()` advertises (`routed_reply_signatures`).
-/

namespace DbusProperties
set_option autoImplicit false

variable {V : Type} [DecidableEq V]

/-- The C++ type of a handler, by the signatures `inputs` of its parameters and `outputs` of its
result tuple: in every state, on arguments of the parameter types, a result it returns has the
result types. -/
def Handler.HasType (handler : Handler V) (inputs outputs : List String) : Prop :=
  ∀ (s s' : Server V) (args r : List (DbusValue V)), args.map DbusValue.signature = inputs →
    s.applyHandler handler args = .ok (s', r) → r.map DbusValue.signature = outputs

/-- A method whose handler has the type its `LambdaDbusMethod` was built with. -/
def MethodBody.WellTyped : MethodBody V → Prop
  | .base => True
  | .lambda inputs outputs handler => handler.HasType inputs outputs

/-- `op` gives `register_method` a handler of the types it is registered with, as C++ typing
ensures of `register_method(name, handler)`. -/
def Op.HandlerTyped : Op V → Prop
  | .registerMethod _ _ inputs outputs run => (Handler.user run).HasType inputs outputs
  | _ => True

namespace Server

theorem wellTyped_getMethod (o : Nat) : (getMethod V o).body.WellTyped := fun _ _ _ _ _ h => by
  obtain ⟨v, rfl⟩ := (applyHandler_ok h).2; rfl

theorem wellTyped_getAllMethod (o : Nat) : (getAllMethod V o).body.WellTyped :=
  fun _ _ _ _ _ h => by obtain ⟨d, rfl⟩ := (applyHandler_ok h).2; rfl

theorem wellTyped_setMethod (o : Nat) : (setMethod V o).body.WellTyped := fun _ _ _ _ _ h => by
  rw [(applyHandler_ok h).2]; rfl

theorem hasType_user (run : List (DbusValue V) → Except Fault (List (DbusValue V)))
    (inputs outputs : List String) :
    (Handler.user run).HasType inputs outputs ↔
      ∀ args r, args.map DbusValue.signature = inputs → run args = .ok r →
        r.map DbusValue.signature = outputs :=
  ⟨fun h args r ha hr => h init init args r ha (by rw [applyHandler, hr]; rfl),
    fun h _ _ args r ha hr => h args r ha (applyHandler_ok hr).2⟩

theorem callMethod_lambda_ok {s t : Server V} {name : String} {inputs outputs : List String}
    {handler : Handler V} {m : Message V} (htype : handler.HasType inputs outputs)
    (h : s.callMethod ⟨name, .lambda inputs outputs handler⟩ m = .ok t) :
    ∃ args s' r, args = m.body.take inputs.length ∧ args.map DbusValue.signature = inputs ∧
      s.applyHandler handler args = .ok (s', r) ∧ t = s'.send ((Message.newReturn m).pack r) ∧
      ((Message.newReturn m).pack r).body.map DbusValue.signature = outputs := by
  obtain ⟨args, hargs, h⟩ := bind_eq_ok.1 h
  obtain ⟨⟨s', r⟩, hs', h⟩ := bind_eq_ok.1 h
  cases h
  obtain ⟨htake, hsig⟩ := Message.unpackIntoTuple_eq_ok hargs
  exact ⟨args, s', r, htake, hsig, hs', rfl,
    by simp [Message.newReturn, htype s s' args r hsig hs']⟩

/-- Every method in the table of every interface has its handler's type. -/
def MethodsTyped (s : Server V) : Prop :=
  ∀ r k method, (s.iface r).dbusMethods.lookup k = some method → method.body.WellTyped

namespace MethodsTyped
variable {s t : Server V}

theorem init : MethodsTyped (init : Server V) := fun _ _ _ h => by
  simp [iface, Server.init, default, DbusInterface.new, FlatMap.lookup_empty] at h

theorem of_methods (hi : MethodsTyped s)
    (h : ∀ r k method, (t.iface r).dbusMethods.lookup k = some method →
      (s.iface r).dbusMethods.lookup k = some method) : MethodsTyped t :=
  fun r k method hm => hi r k method (h r k method hm)

theorem registerMethod (hi : MethodsTyped s) (r : Nat) {method : DbusMethod V}
    (hm : method.body.WellTyped) : MethodsTyped (s.registerMethod r method) := by
  intro r' k m h
  rw [iface_registerMethod] at h
  split_ifs at h with hr
  · obtain ⟨rfl, -⟩ := hr
    simp only [DbusInterface.registerMethod, FlatMap.lookup_emplace] at h
    split_ifs at h with hk
    · subst hk
      cases hl : (s.iface r').dbusMethods.lookup method.name with
      | none => rw [hl] at h; cases h; exact hm
      | some m' => rw [hl] at h; cases h; exact hi r' _ _ hl
    · exact hi r' k m h
  · exact hi r' k m h

theorem newInterface (hi : MethodsTyped s) (name : String) :
    MethodsTyped (s.newInterface name).1 :=
  hi.of_methods fun r k m h => by
    rw [iface_newInterface] at h
    split_ifs at h
    · simp [DbusInterface.new, FlatMap.lookup_empty] at h
    · exact h

theorem registerInterface (hi : MethodsTyped s) (o r : Nat) :
    MethodsTyped (s.registerInterface o r) :=
  hi.of_methods fun r' k m h => by
    rw [iface_registerInterface] at h
    split_ifs at h with hr
    · obtain ⟨rfl, -⟩ := hr; exact h
    · exact h

theorem setProperties (hi : MethodsTyped s) (r : Nat) (v : List (String × V)) (mode : UpdateType) :
    MethodsTyped (s.setProperties r v mode) :=
  hi.of_methods fun r' k m h => by
    rw [iface_setProperties] at h
    split_ifs at h with hr
    · obtain ⟨rfl, -⟩ := hr; simpa using h
    · exact h

theorem appendObject (hi : MethodsTyped s) (x : DbusObject) :
    MethodsTyped { s with objectHeap := s.objectHeap ++ [x] } :=
  hi.of_methods fun _ _ _ h => h

theorem newObject (hi : MethodsTyped s) (name : String) : MethodsTyped (s.newObject name).1 := by
  rw [newObject_eq]
  exact ((((hi.appendObject _).newInterface _).registerInterface _ _).registerMethod _
    (wellTyped_getMethod _) |>.registerMethod _ (wellTyped_getAllMethod _)).registerMethod _
    (wellTyped_setMethod _)

theorem onMethodCall {ec : Nat} {m : Message V} (hi : MethodsTyped s)
    (h : s.onMethodCall ec m = .ok t) : MethodsTyped t := by
  rcases onMethodCall_ok h with rfl | ⟨s', r, hs', rfl⟩
  · exact hi.of_methods fun _ _ _ h => h
  · rcases hs' with rfl | ⟨_, _, r', v, -, rfl⟩
    · exact hi.of_methods fun _ _ _ h => h
    · exact (hi.setProperties r' v .valueChangeOnly).of_methods fun _ _ _ h => h

variable (sigOf : V → String)

theorem step {op : Op V} (hi : MethodsTyped s) (hop : op.HandlerTyped) (h : Step sigOf s op t) :
    MethodsTyped t := by
  obtain ⟨-, he⟩ := h
  cases op with
  | newObject name => cases he; exact hi.newObject name
  | addObject name => cases he; exact (hi.newObject name).of_methods fun _ _ _ h => h
  | registerObject o => cases he; exact hi.of_methods fun _ _ _ h => h
  | newInterface name => cases he; exact hi.newInterface name
  | addInterface o name => cases he; exact (hi.newInterface name).registerInterface _ _
  | registerInterface o r => cases he; exact hi.registerInterface o r
  | registerMethod r name inputs outputs run => cases he; exact hi.registerMethod r hop
  | registerDbusMethod r name => cases he; exact hi.registerMethod r trivial
  | setProperties r v mode => cases he; exact hi.setProperties r v mode
  | introspect m => cases he; split_ifs <;> exact hi.of_methods fun _ _ _ h => h
  | getManagedObjects m => cases he; split_ifs <;> exact hi.of_methods fun _ _ _ h => h
  | methodCall ec m =>
    simp only [exec] at he
    split_ifs at he
    · exact (hi.of_methods (t := { s with methodArmed := false }) fun _ _ _ h => h).onMethodCall he
    · cases he; exact hi

theorem run {ops : List (Op V)}
    (hrun : Run sigOf (fun _ op => op.HandlerTyped) s ops t) (hi : MethodsTyped s) :
    MethodsTyped t := by
  induction hrun with
  | nil => exact hi
  | cons hop hstep _ ih => exact ih (hi.step sigOf hop hstep)

end MethodsTyped

omit [DecidableEq V] in
theorem routedMethod_lookup {s : Server V} {m : Message V} {method : DbusMethod V}
    (h : s.routedMethod m = some method) : ∃ r, (s.iface r).dbusMethods.lookup m.member = some method := by
  simp only [routedMethod, routeIn, Option.bind_eq_some] at h
  obtain ⟨_, _, r, _, hm⟩ := h
  exact ⟨r, hm⟩

variable (sigOf : V → String)

/-- On every run whose `register_method` calls give handlers of the types they are registered
with, as C++ typing ensures, a call that `on_method_call` routes to a `LambdaDbusMethod` and that
returns has read arguments of the `in` signatures of the method's `get_args()` from the front of
the body, and sent last a reply whose body has its `out` signatures. -/
theorem routed_reply_signatures {s t : Server V} {ops : List (Op V)}
    (hrun : Run sigOf (fun _ op => op.HandlerTyped) init ops s) {m : Message V} {name : String}
    {inputs outputs : List String} {handler : Handler V}
    (hroute : s.routedMethod m = some ⟨name, .lambda inputs outputs handler⟩)
    (h : s.onMethodCall 0 m = .ok t) :
    let method : DbusMethod V := ⟨name, .lambda inputs outputs handler⟩
    (m.body.take inputs.length).map DbusValue.signature =
        (method.getArgs.filter fun a => a.direction = "in").map DbusArgument.type ∧
      ∃ r, t.sent.getLast? = some ((Message.newReturn m).pack r) ∧
        r.map DbusValue.signature =
          (method.getArgs.filter fun a => a.direction = "out").map DbusArgument.type := by
  obtain ⟨r₀, hr₀⟩ := routedMethod_lookup hroute
  have htype : handler.HasType inputs outputs :=
    MethodsTyped.run sigOf hrun MethodsTyped.init r₀ _ _ hr₀
  rw [onMethodCall_zero, hroute] at h
  obtain ⟨t', ht', rfl⟩ := map_eq_ok.1 h
  obtain ⟨args, s', r, rfl, hsig, -, rfl, hout⟩ := callMethod_lambda_ok htype ht'
  obtain ⟨hin, hout'⟩ := DbusMethod.filter_getArgs_lambda name inputs outputs handler
  refine ⟨by rw [hin, hsig], r, by simp [rearmMethodFilter, send], ?_⟩
  rw [hout']
  simpa [Message.newReturn] using hout

/-- `/a` with a user method `Echo`, one `s` in and one `s` out, on its `Properties` interface,
called with one string. -/
theorem routed_reply_signatures_echo :
    let echo : List (DbusValue Nat) → Except Fault (List (DbusValue Nat)) := fun args => .ok args
    let s : Server Nat :=
      (init.addObject "/a").1.registerMethod 0 ⟨"Echo", .lambda ["s"] ["s"] (.user echo)⟩
    let m : Message Nat :=
      { type := "method_call", path := "/a", interface := propertiesInterface, member := "Echo",
        serial := 1, replySerial := 0, body := [.string "hi"] }
    let t := rearmMethodFilter (s.send ((Message.newReturn m).pack [.string "hi"]))
    let method : DbusMethod Nat := ⟨"Echo", .lambda ["s"] ["s"] (.user echo)⟩
    Run (fun _ => "i") (fun _ op => op.HandlerTyped) init
        [.addObject "/a", .registerMethod 0 "Echo" ["s"] ["s"] echo] s ∧
      s.routedMethod m = some method ∧ s.onMethodCall 0 m = .ok t ∧
      ((m.body.take ["s"].length).map DbusValue.signature =
          (method.getArgs.filter fun a => a.direction = "in").map DbusArgument.type ∧
        ∃ r, t.sent.getLast? = some ((Message.newReturn m).pack r) ∧
          r.map DbusValue.signature =
            (method.getArgs.filter fun a => a.direction = "out").map DbusArgument.type) :=
  have htyped : (Handler.user fun args : List (DbusValue Nat) => .ok args).HasType ["s"] ["s"] :=
    (hasType_user _ _ _).2 fun _ _ ha hr => by cases hr; exact ha
  have hrun : Run (fun _ : Nat => "i") (fun _ op => op.HandlerTyped) init
      [.addObject "/a", .registerMethod 0 "Echo" ["s"] ["s"] fun args => .ok args]
      ((init.addObject "/a").1.registerMethod 0
        ⟨"Echo", .lambda ["s"] ["s"] (.user fun args => .ok args)⟩) :=
    .cons trivial ⟨trivial, rfl⟩ (.cons htyped ⟨by decide, rfl⟩ (.nil _))
  ⟨hrun, rfl, rfl, routed_reply_signatures _ hrun rfl rfl⟩

end Server

end DbusProperties
