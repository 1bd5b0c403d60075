import DbusProperties.Run

/-! # The two function-local static endpoints

`register_interface` and `set_properties` each build the endpoint of their signal as a
`const static`, from the `object_name` in scope at the first call of the process, and the model
keeps the two as `interfacesAddedPath` and `propertiesChangedPath`. `StaticPaths` says that
every `InterfacesAdded` and every `PropertiesChanged` signal sent so far carries the path its
static holds. It holds initially and every step keeps it (`StaticPaths.step`), so in every
reachable state all `PropertiesChanged` signals ever sent carry one path, whichever object's
interface sent them, and so do all `InterfacesAdded` signals (`signal_paths_agree`).
-/

namespace DbusProperties
set_option autoImplicit false

namespace Server
variable {V : Type}

/-- Every signal of the two kinds sent so far carries the path its static holds. -/
structure StaticPaths (s : Server V) : Prop where
  interfacesAdded : ∀ msg ∈ s.sent, msg.member = "InterfacesAdded" →
    s.interfacesAddedPath = some msg.path
  propertiesChanged : ∀ msg ∈ s.sent, msg.member = "PropertiesChanged" →
    s.propertiesChangedPath = some msg.path

namespace StaticPaths
variable {s t : Server V}

theorem init : StaticPaths (init : Server V) := ⟨by simp [Server.init], by simp [Server.init]⟩

theorem of_eq (hi : StaticPaths s) (h₁ : t.sent = s.sent)
    (h₂ : t.interfacesAddedPath = s.interfacesAddedPath)
    (h₃ : t.propertiesChangedPath = s.propertiesChangedPath) : StaticPaths t where
  interfacesAdded msg hm hk := h₂ ▸ hi.interfacesAdded msg (h₁ ▸ hm) hk
  propertiesChanged msg hm hk := h₃ ▸ hi.propertiesChanged msg (h₁ ▸ hm) hk

theorem send_reply (hi : StaticPaths s) (m : Message V) (r : List (DbusValue V)) :
    StaticPaths (s.send ((Message.newReturn m).pack r)) := by
  constructor <;> intro msg hm hk <;>
    simp only [send, List.mem_append, List.mem_singleton] at hm <;> rcases hm with hm | rfl
  · exact hi.interfacesAdded msg hm hk
  · simp [Message.newReturn, Message.pack] at hk
  · exact hi.propertiesChanged msg hm hk
  · simp [Message.newReturn, Message.pack] at hk

theorem registerInterface (hi : StaticPaths s) (o r : Nat) :
    StaticPaths (s.registerInterface o r) := by
  constructor <;> intro msg hm hk <;>
    simp only [sent_registerInterface, List.mem_append, List.mem_singleton] at hm <;>
    rcases hm with hm | rfl
  · rw [interfacesAddedPath_registerInterface, hi.interfacesAdded msg hm hk]; rfl
  · rfl
  · rw [propertiesChangedPath_registerInterface]; exact hi.propertiesChanged msg hm hk
  · simp [interfacesAddedSignal, Message.newSignal, Message.pack] at hk

theorem setProperties [DecidableEq V] (hi : StaticPaths s) (r : Nat) (v : List (String × V))
    (mode : UpdateType) : StaticPaths (s.setProperties r v mode) := by
  constructor <;> intro msg hm hk <;>
    simp only [sent_setProperties, List.mem_append, List.mem_singleton] at hm <;>
    rcases hm with hm | rfl
  · exact hi.interfacesAdded msg hm hk
  · simp [propertiesChangedSignal, Message.newSignal, Message.pack] at hk
  · rw [propertiesChangedPath_setProperties, hi.propertiesChanged msg hm hk]; rfl
  · rfl

theorem appendObject (hi : StaticPaths s) (x : DbusObject) :
    StaticPaths { s with objectHeap := s.objectHeap ++ [x] } :=
  hi.of_eq rfl rfl rfl

theorem newInterface (hi : StaticPaths s) (name : String) : StaticPaths (s.newInterface name).1 :=
  hi.of_eq rfl rfl rfl

theorem registerMethod (hi : StaticPaths s) (r : Nat) (method : DbusMethod V) :
    StaticPaths (s.registerMethod r method) :=
  hi.of_eq rfl rfl rfl

theorem newObject (hi : StaticPaths s) (name : String) : StaticPaths (s.newObject name).1 := by
  rw [newObject_eq]
  exact ((((hi.appendObject _).newInterface _).registerInterface _ _).registerMethod _ _
    |>.registerMethod _ _).registerMethod _ _

theorem onMethodCall [DecidableEq V] {ec : Nat} {m : Message V} (hi : StaticPaths s)
    (h : s.onMethodCall ec m = .ok t) : StaticPaths t := by
  rcases onMethodCall_ok h with rfl | ⟨s', r, hs', rfl⟩
  · exact hi.of_eq rfl rfl rfl
  · refine (StaticPaths.send_reply ?_ m r).of_eq rfl rfl rfl
    rcases hs' with rfl | ⟨_, _, r', v, -, rfl⟩
    · exact hi
    · exact hi.setProperties _ _ _

theorem step [DecidableEq V] (sigOf : V → String) {op : Op V} (hi : StaticPaths s)
    (h : Step sigOf s op t) : StaticPaths t := by
  obtain ⟨-, he⟩ := h
  cases op with
  | newObject name => cases he; exact hi.newObject name
  | addObject name => cases he; exact (hi.newObject name).of_eq rfl rfl rfl
  | registerObject o => cases he; exact hi.of_eq rfl rfl rfl
  | newInterface name => cases he; exact hi.newInterface name
  | addInterface o name => cases he; exact (hi.newInterface name).registerInterface _ _
  | registerInterface o r => cases he; exact hi.registerInterface o r
  | registerMethod r name inputs outputs run => cases he; exact hi.registerMethod _ _
  | registerDbusMethod r name => cases he; exact hi.registerMethod _ _
  | setProperties r v mode => cases he; exact hi.setProperties r v mode
  | introspect m =>
    cases he
    split_ifs
    · exact (hi.send_reply m _).of_eq rfl rfl rfl
    · exact hi
  | getManagedObjects m =>
    cases he
    split_ifs
    · exact (hi.send_reply m _).of_eq rfl rfl rfl
    · exact hi
  | methodCall ec m =>
    simp only [exec] at he
    split_ifs at he
    · have disarm : StaticPaths { s with methodArmed := false } := hi.of_eq rfl rfl rfl
      exact disarm.onMethodCall he
    · cases he; exact hi

theorem run [DecidableEq V] (sigOf : V → String) {P : Server V → Op V → Prop} {ops : List (Op V)}
    (hrun : Run sigOf P s ops t) (hi : StaticPaths s) : StaticPaths t := by
  induction hrun with
  | nil => exact hi
  | cons _ hstep _ ih => exact ih (hi.step sigOf hstep)

end StaticPaths

/-- In every reachable state, all `PropertiesChanged` signals sent so far carry one path, and all
`InterfacesAdded` signals one path: those of the first calls of `set_properties` and of
`register_interface`, whatever object the later calls were for. -/
theorem signal_paths_agree [DecidableEq V] (sigOf : V → String) {s : Server V}
    (hs : Reachable sigOf s) :
    (∀ m₁ ∈ s.sent, ∀ m₂ ∈ s.sent, m₁.member = "PropertiesChanged" →
      m₂.member = "PropertiesChanged" → m₁.path = m₂.path) ∧
    (∀ m₁ ∈ s.sent, ∀ m₂ ∈ s.sent, m₁.member = "InterfacesAdded" →
      m₂.member = "InterfacesAdded" → m₁.path = m₂.path) := by
  obtain ⟨ops, hrun⟩ := hs
  have hi := StaticPaths.run sigOf hrun StaticPaths.init
  exact ⟨fun m₁ h₁ m₂ h₂ k₁ k₂ => Option.some.inj
      ((hi.propertiesChanged m₁ h₁ k₁).symm.trans (hi.propertiesChanged m₂ h₂ k₂)),
    fun m₁ h₁ m₂ h₂ k₁ k₂ => Option.some.inj
      ((hi.interfacesAdded m₁ h₁ k₁).symm.trans (hi.interfacesAdded m₂ h₂ k₂))⟩

/-- Interfaces `I` on `/a` and on `/b`, each set once: a reachable state. -/
theorem signal_paths_agree_two_objects :
    let s : Server Nat :=
      (((((init.addObject "/a").1.addInterface 0 "I").1.addObject "/b").1.addInterface 1
        "I").1.setProperty 1 "x" 1 .valueChangeOnly).setProperty 3 "x" 1 .valueChangeOnly
    Reachable (fun _ => "i") s ∧
      (∀ m₁ ∈ s.sent, ∀ m₂ ∈ s.sent, m₁.member = "PropertiesChanged" →
        m₂.member = "PropertiesChanged" → m₁.path = m₂.path) ∧
      (∀ m₁ ∈ s.sent, ∀ m₂ ∈ s.sent, m₁.member = "InterfacesAdded" →
        m₂.member = "InterfacesAdded" → m₁.path = m₂.path) :=
  have hs : Reachable (fun _ : Nat => "i")
      ((((((init.addObject "/a").1.addInterface 0 "I").1.addObject "/b").1.addInterface 1
        "I").1.setProperty 1 "x" 1 .valueChangeOnly).setProperty 3 "x" 1 .valueChangeOnly) :=
    ⟨[.addObject "/a", .addInterface 0 "I", .addObject "/b", .addInterface 1 "I",
      .setProperties 1 [("x", 1)] .valueChangeOnly, .setProperties 3 [("x", 1)] .valueChangeOnly],
      .cons trivial ⟨trivial, rfl⟩ <| .cons trivial ⟨by decide, rfl⟩ <|
      .cons trivial ⟨trivial, rfl⟩ <| .cons trivial ⟨by decide, rfl⟩ <|
      .cons trivial ⟨by decide, rfl⟩ <| .cons trivial ⟨by decide, rfl⟩ <| .nil _⟩
  ⟨hs, signal_paths_agree _ hs⟩

end Server

end DbusProperties
