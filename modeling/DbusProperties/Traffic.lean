import DbusProperties.Run

/-! # What the process puts on the bus

The object model sends three kinds of message: the `InterfacesAdded` signal of
`register_interface`, the `PropertiesChanged` signal of `set_properties`, and the method returns
of `on_introspect`, `on_get_managed_objects` and `LambdaDbusMethod::call`. A return is built by
`message::new_return(m)` from the call `m` a filter delivered, and each delivery sends at most
one: the `Set` handler's signal goes out before its return, and a base `DbusMethod` or a missing
method sends nothing.

`Answers calls new` says that of `new`, the returns answer, in order, method calls among `calls`,
none twice, and everything else is one of the two signals. It composes along a run
(`Answers.append`), and every step satisfies it with the message it delivers, if any
(`Sends.step`). So over every run the process sends no return that answers no delivered call,
answers no call twice, and keeps the order of the calls (`sent_answers_calls`).
-/

namespace DbusProperties
set_option autoImplicit false

/-- The message the bus delivers to one of the three filters in `op`. -/
def Op.delivered {V : Type} : Op V → Option (Message V)
  | .introspect m | .getManagedObjects m | .methodCall _ m => some m
  | _ => none

variable {V : Type}

/-- Of the messages `new`, the returns answer, in order, method calls among `calls`, each at
most once; every other message is an `InterfacesAdded` or a `PropertiesChanged` signal. -/
structure Answers (calls new : List (Message V)) : Prop where
  kinds : ∀ msg ∈ new, msg.type = "method_return" ∨
    (msg.type = "signal" ∧ (msg.member = "InterfacesAdded" ∨ msg.member = "PropertiesChanged"))
  serials : ((new.filter fun msg => msg.type = "method_return").map Message.replySerial).Sublist
    ((calls.filter fun m => m.type = "method_call").map Message.serial)

namespace Answers

theorem nil (calls : List (Message V)) : Answers calls [] :=
  ⟨by simp, by simp⟩

theorem append {c₁ c₂ n₁ n₂ : List (Message V)} (h₁ : Answers c₁ n₁) (h₂ : Answers c₂ n₂) :
    Answers (c₁ ++ c₂) (n₁ ++ n₂) where
  kinds msg hm := (List.mem_append.1 hm).elim (h₁.kinds msg) (h₂.kinds msg)
  serials := by
    simpa only [List.filter_append, List.map_append] using h₁.serials.append h₂.serials

theorem signal {msg : Message V} (ht : msg.type = "signal")
    (hk : msg.member = "InterfacesAdded" ∨ msg.member = "PropertiesChanged") : Answers [] [msg] :=
  ⟨by simp [ht, hk], by simp [ht]⟩

theorem reply {m : Message V} (hm : m.type = "method_call") (r : List (DbusValue V)) :
    Answers [m] [(Message.newReturn m).pack r] :=
  ⟨by simp [Message.newReturn, Message.pack], by simp [Message.newReturn, Message.pack, hm]⟩

end Answers

namespace Server

/-- `t` follows `s` by sending, after what `s` sent, only what `Answers calls` allows. -/
def Sends (calls : List (Message V)) (s t : Server V) : Prop :=
  ∃ new, t.sent = s.sent ++ new ∧ Answers calls new

namespace Sends
variable {s t u : Server V}

theorem of_sent (calls : List (Message V)) (h : t.sent = s.sent) : Sends calls s t :=
  ⟨[], by rw [h, List.append_nil], Answers.nil calls⟩

theorem trans {c₁ c₂ : List (Message V)} (h₁ : Sends c₁ s t) (h₂ : Sends c₂ t u) :
    Sends (c₁ ++ c₂) s u := by
  obtain ⟨n₁, e₁, a₁⟩ := h₁
  obtain ⟨n₂, e₂, a₂⟩ := h₂
  exact ⟨n₁ ++ n₂, by rw [e₂, e₁, List.append_assoc], a₁.append a₂⟩

theorem registerInterface (o r : Nat) : Sends [] s (s.registerInterface o r) :=
  ⟨_, sent_registerInterface s o r, Answers.signal rfl (.inl rfl)⟩

theorem setProperties [DecidableEq V] (r : Nat) (v : List (String × V)) (mode : UpdateType) :
    Sends [] s (s.setProperties r v mode) :=
  ⟨_, sent_setProperties s r v mode, Answers.signal rfl (.inr rfl)⟩

theorem reply {m : Message V} (hm : m.type = "method_call") (r : List (DbusValue V)) :
    Sends [m] s (s.send ((Message.newReturn m).pack r)) :=
  ⟨_, rfl, Answers.reply hm r⟩

theorem newObject (name : String) : Sends [] s (s.newObject name).1 := by
  rw [newObject_eq]
  exact ⟨_, sent_registerInterface _ _ _, Answers.signal rfl (.inl rfl)⟩

theorem onMethodCall [DecidableEq V] {ec : Nat} {m : Message V} (hm : m.type = "method_call")
    (h : s.onMethodCall ec m = .ok t) : Sends [m] s t := by
  rcases onMethodCall_ok h with rfl | ⟨s', r, hs', rfl⟩
  · exact of_sent _ rfl
  · rcases hs' with rfl | ⟨_, _, r', v, -, rfl⟩
    · exact reply hm r
    · exact (setProperties r' v .valueChangeOnly).trans (reply hm r)

variable [DecidableEq V] (sigOf : V → String)

theorem step {op : Op V} (h : Step sigOf s op t) : Sends op.delivered.toList s t := by
  obtain ⟨-, he⟩ := h
  cases op with
  | newObject name => cases he; exact newObject name
  | addObject name => cases he; exact (newObject name).trans (of_sent [] rfl)
  | registerObject o => cases he; exact of_sent _ rfl
  | newInterface name => cases he; exact of_sent _ rfl
  | addInterface o name => cases he; exact registerInterface o _
  | registerInterface o r => cases he; exact registerInterface o r
  | registerMethod _ _ _ _ _ | registerDbusMethod _ _ => cases he; exact of_sent _ rfl
  | setProperties r v mode => cases he; exact setProperties r v mode
  | introspect m | getManagedObjects m =>
    cases he
    split_ifs with hf
    · exact reply hf.2.1 _
    · exact of_sent _ rfl
  | methodCall ec m =>
    simp only [exec] at he
    split_ifs at he with hf
    · exact onMethodCall (s := { s with methodArmed := false }) hf.2 he
    · cases he; exact of_sent _ rfl

theorem run {P : Server V → Op V → Prop} {ops : List (Op V)} (hrun : Run sigOf P s ops t) :
    Sends (ops.filterMap Op.delivered) s t := by
  induction hrun with
  | nil => exact of_sent _ rfl
  | @cons _ _ _ op _ _ hstep _ ih =>
    have h := (step sigOf hstep).trans ih
    cases hd : op.delivered <;> simpa [List.filterMap_cons, hd] using h

end Sends

variable [DecidableEq V] (sigOf : V → String)

/-- Over every run, the process sends only `InterfacesAdded` and `PropertiesChanged` signals and
method returns, and the returns answer, in order, method calls the bus delivered to the filters
during the run, none twice. -/
theorem sent_answers_calls {P : Server V → Op V → Prop} {s t : Server V} {ops : List (Op V)}
    (hrun : Run sigOf P s ops t) :
    ∃ new, t.sent = s.sent ++ new ∧
      (∀ msg ∈ new, msg.type = "method_return" ∨
        (msg.type = "signal" ∧ (msg.member = "InterfacesAdded" ∨
          msg.member = "PropertiesChanged"))) ∧
      ((new.filter fun msg => msg.type = "method_return").map Message.replySerial).Sublist
        (((ops.filterMap Op.delivered).filter fun m => m.type = "method_call").map
          Message.serial) :=
  let ⟨new, e, a⟩ := Sends.run sigOf hrun
  ⟨new, e, a.kinds, a.serials⟩

/-- `/a` is made; a call of a method its `Properties` interface lacks gets no return, and an
`Introspect` call gets one. -/
theorem sent_answers_calls_missing_method :
    let m₁ : Message Nat :=
      { type := "method_call", path := "/a", interface := propertiesInterface, member := "Ping",
        serial := 1, replySerial := 0, body := [] }
    let m₂ : Message Nat :=
      { type := "method_call", path := "/a", interface := "org.freedesktop.DBus.Introspectable",
        member := "Introspect", serial := 2, replySerial := 0, body := [] }
    let t : Server Nat := ({ rearmMethodFilter ({ (init.addObject "/a").1 with
      methodArmed := false } : Server Nat) with introspectArmed := false } : Server Nat).onIntrospect
        (fun _ => "i") m₂
    Run (fun _ => "i") (fun _ _ => True) init [.addObject "/a", .methodCall 0 m₁, .introspect m₂]
        t ∧
      ∃ new, t.sent = init.sent ++ new ∧
        (∀ msg ∈ new, msg.type = "method_return" ∨
          (msg.type = "signal" ∧ (msg.member = "InterfacesAdded" ∨
            msg.member = "PropertiesChanged"))) ∧
        ((new.filter fun msg => msg.type = "method_return").map Message.replySerial).Sublist
          ((([Op.addObject "/a", .methodCall 0 m₁, .introspect m₂].filterMap Op.delivered).filter
            fun m => m.type = "method_call").map Message.serial) :=
  have hrun : Run (fun _ : Nat => "i") (fun _ _ => True) init
      [.addObject "/a",
        .methodCall 0
          { type := "method_call", path := "/a", interface := propertiesInterface,
            member := "Ping", serial := 1, replySerial := 0, body := [] },
        .introspect
          { type := "method_call", path := "/a", interface := "org.freedesktop.DBus.Introspectable",
            member := "Introspect", serial := 2, replySerial := 0, body := [] }]
      (({ rearmMethodFilter ({ (init.addObject "/a").1 with methodArmed := false } : Server Nat)
        with introspectArmed := false } : Server Nat).onIntrospect (fun _ => "i")
          { type := "method_call", path := "/a", interface := "org.freedesktop.DBus.Introspectable",
            member := "Introspect", serial := 2, replySerial := 0, body := [] }) :=
    .cons trivial ⟨trivial, rfl⟩ <| .cons trivial ⟨trivial, rfl⟩ <|
      .cons trivial ⟨trivial, rfl⟩ <| .nil _
  ⟨hrun, sent_answers_calls _ hrun⟩

end Server

end DbusProperties
