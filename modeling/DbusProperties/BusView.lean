import DbusProperties.Invariant
import DbusProperties.Notification

/-! # What a client on the bus knows of the property tables

A client learns of an interface from the `InterfacesAdded` signal `register_interface` sends,
which carries the interface's name and its table, and of each later change from the
`PropertiesChanged` signal `set_properties` sends, which carries the interface's name and the
change-set. The path of both signals is a function-local static (`StaticEndpoints`), so the
interface's name is all they tell of where they come from. `busView name` is the table of a
client that follows `name`: the last snapshot for `name`, with every later change-set for `name`
assigned in order, and nothing before the first message for `name`.

`BusTracks` says the client is right: it holds nothing for a name no interface has, and the live
table of the interface for a name only one interface has. Every step keeps it except a `FORCE`
call of `set_properties`, which signals entries it does not write (`Op.Forces`), so over every
run without one the client holds the live table of every interface whose name is its own
(`busView_tracks`).
-/

namespace DbusProperties
set_option autoImplicit false

/-! ## The client -/

section Client
variable {V : Type}

/-- A client assigns the entries of a change-set to its table in order. -/
def assignView (view : String → Option V) (updates : List (String × V)) : String → Option V :=
  updates.foldl (fun view e => Function.update view e.1 (some e.2)) view

theorem lookup_assign_eq_update (table : FlatMap V) (k : String) (v : V) :
    (table.assign k v).lookup = Function.update table.lookup k (some v) :=
  funext fun k' => by simp only [FlatMap.lookup_assign, Function.update_apply]

theorem lookup_assignAll_eq_assignView (table : FlatMap V) (v : List (String × V)) :
    (assignAll table v).lookup = assignView table.lookup v := by
  induction v generalizing table with
  | nil => rfl
  | cons e v ih => rw [assignAll_cons, ih, lookup_assign_eq_update]; rfl

/-- How a client following interface `name` changes its table on message `msg`: it takes the
snapshot of an `InterfacesAdded` for `name` and applies the change-set of a `PropertiesChanged`
for `name`; it ignores every other message. -/
def watch (name : String) (view : String → Option V) (msg : Message V) : String → Option V :=
  match msg.body with
  | [.string _, .interfaces [(n, props)]] =>
    if msg.member = "InterfacesAdded" ∧ n = name then fun k => props.lookup k else view
  | [.string n, .properties updates, .strings _] =>
    if msg.member = "PropertiesChanged" ∧ n = name then assignView view updates else view
  | _ => view

/-- The table of a client following `name`, from no table, after the messages `msgs`. -/
def busView (name : String) (msgs : List (Message V)) : String → Option V :=
  msgs.foldl (watch name) fun _ => none

theorem busView_concat (name : String) (msgs : List (Message V)) (msg : Message V) :
    busView name (msgs ++ [msg]) = watch name (busView name msgs) msg := by
  simp [busView, List.foldl_append]

theorem watch_reply (name : String) (view : String → Option V) (m : Message V)
    (r : List (DbusValue V)) : watch name view ((Message.newReturn m).pack r) = view := by
  unfold watch
  split <;> simp [Message.newReturn, Message.pack]

theorem watch_interfacesAdded (name : String) (view : String → Option V) (path objectName n : String)
    (props : List (String × V)) :
    watch name view (interfacesAddedSignal path objectName (n, props)) =
      if n = name then fun k => props.lookup k else view := by
  simp [watch, interfacesAddedSignal, Message.newSignal, Message.pack]

theorem watch_propertiesChanged (name : String) (view : String → Option V) (path n : String)
    (updates : List (String × V)) :
    watch name view (propertiesChangedSignal path n updates) =
      if n = name then assignView view updates else view := by
  simp [watch, propertiesChangedSignal, Message.newSignal, Message.pack]

/-! ## Fresh entries -/

/-- Each entry of a change-set changes the table it is assigned to, in order. -/
def ChangesEach : (String → Option V) → List (String × V) → Prop
  | _, [] => True
  | view, e :: u => view e.1 ≠ some e.2 ∧ ChangesEach (Function.update view e.1 (some e.2)) u

/-- If `msg` is a `PropertiesChanged` signal for `name`, each of its entries changes `view`. -/
def FreshFor (name : String) (view : String → Option V) (msg : Message V) : Prop :=
  match msg.body with
  | [.string n, .properties updates, .strings _] =>
    msg.member = "PropertiesChanged" → n = name → ChangesEach view updates
  | _ => True

/-- Every `PropertiesChanged` signal for `name` among `msgs` changes, with each of its entries,
the table of a client that follows `name` from `view`. -/
def Fresh (name : String) : (String → Option V) → List (Message V) → Prop
  | _, [] => True
  | view, msg :: msgs => FreshFor name view msg ∧ Fresh name (watch name view msg) msgs

theorem fresh_concat (name : String) (view : String → Option V) (msgs : List (Message V))
    (msg : Message V) :
    Fresh name view (msgs ++ [msg]) ↔
      Fresh name view msgs ∧ FreshFor name (msgs.foldl (watch name) view) msg := by
  induction msgs generalizing view with
  | nil => simp [Fresh]
  | cons m msgs ih => exact (and_congr_right' (ih _)).trans and_assoc.symm

theorem freshFor_reply (name : String) (view : String → Option V) (m : Message V)
    (r : List (DbusValue V)) : FreshFor name view ((Message.newReturn m).pack r) := by
  unfold FreshFor
  split <;> simp_all [Message.newReturn, Message.pack]

theorem freshFor_interfacesAdded (name : String) (view : String → Option V)
    (path objectName : String) (entry : String × List (String × V)) :
    FreshFor name view (interfacesAddedSignal path objectName entry) := by
  simp [FreshFor, interfacesAddedSignal, Message.newSignal, Message.pack]

theorem freshFor_propertiesChanged (name : String) (view : String → Option V) (path n : String)
    (updates : List (String × V)) :
    FreshFor name view (propertiesChangedSignal path n updates) ↔
      (n = name → ChangesEach view updates) := by
  simp [FreshFor, propertiesChangedSignal, Message.newSignal, Message.pack]

theorem changesEach_changedEntries [DecidableEq V] (table : FlatMap V) (v : List (String × V)) :
    ChangesEach table.lookup (changedEntries table v) := by
  induction v generalizing table with
  | nil => trivial
  | cons e v ih =>
    rw [changedEntries_cons]
    by_cases he : table.lookup e.1 = some e.2
    · rw [if_neg (not_not.2 he), List.nil_append, FlatMap.assign_of_lookup he]
      exact ih table
    · rw [if_pos he, List.singleton_append]
      exact ⟨he, lookup_assign_eq_update table e.1 e.2 ▸ ih _⟩

end Client

/-- `set_properties` in `FORCE` mode, which signals entries it does not write. -/
def Op.Forces {V : Type} : Op V → Bool
  | .setProperties _ _ .force => true
  | _ => false

/-! ## The client is right -/

namespace Server
variable {V : Type}

/-- No other interface has the name of interface `r`. -/
def NameUnique (s : Server V) (r : Nat) : Prop :=
  ∀ r' < s.ifaceHeap.length, r' ≠ r → (s.iface r').interfaceName ≠ (s.iface r).interfaceName

theorem NameUnique.of_names {s t : Server V} (hlen : t.ifaceHeap.length = s.ifaceHeap.length)
    (hname : ∀ r, (t.iface r).interfaceName = (s.iface r).interfaceName) {r : Nat}
    (hu : t.NameUnique r) : s.NameUnique r :=
  fun r' hr' hne => by rw [← hname, ← hname]; exact hu r' (hlen ▸ hr') hne

theorem absent_newInterface {s : Server V} {name n : String}
    (h : ∀ r < (s.newInterface name).1.ifaceHeap.length,
      ((s.newInterface name).1.iface r).interfaceName ≠ n) :
    ∀ r < s.ifaceHeap.length, (s.iface r).interfaceName ≠ n := fun r hr => by
  have := h r (by simp; omega)
  rwa [iface_newInterface, if_neg (Nat.ne_of_lt hr)] at this

theorem nameUnique_newInterface {s : Server V} {name : String} {r : Nat}
    (hr : r < (s.newInterface name).1.ifaceHeap.length)
    (hu : (s.newInterface name).1.NameUnique r) :
    (r < s.ifaceHeap.length ∧ (s.newInterface name).1.iface r = s.iface r ∧ s.NameUnique r) ∨
      (r = s.ifaceHeap.length ∧ (s.newInterface name).1.iface r = DbusInterface.new name ∧
        ∀ r' < s.ifaceHeap.length, (s.iface r').interfaceName ≠ name) := by
  have hold : ∀ r' < s.ifaceHeap.length, (s.newInterface name).1.iface r' = s.iface r' :=
    fun r' hr' => by rw [iface_newInterface, if_neg (Nat.ne_of_lt hr')]
  rcases Nat.lt_succ_iff_lt_or_eq.1 (by simpa using hr) with hr | rfl
  · refine .inl ⟨hr, hold r hr, fun r' hr' hne => ?_⟩
    rw [← hold r' hr', ← hold r hr]
    exact hu r' (by simp; omega) hne
  · have hnew : (s.newInterface name).1.iface s.ifaceHeap.length = DbusInterface.new name := by
      rw [iface_newInterface, if_pos rfl]
    refine .inr ⟨rfl, hnew, fun r' hr' => ?_⟩
    have := hu r' (by simp; omega) (Nat.ne_of_lt hr')
    rwa [hnew, hold r' hr'] at this

/-- A client following the signals by interface name holds nothing for a name no interface has,
and the live table of the interface for a name only one interface has. -/
structure BusTracks (s : Server V) : Prop where
  absent : ∀ name, (∀ r < s.ifaceHeap.length, (s.iface r).interfaceName ≠ name) →
    busView name s.sent = fun _ => none
  unique : ∀ r < s.ifaceHeap.length, s.NameUnique r →
    busView (s.iface r).interfaceName s.sent = (s.iface r).propertiesMap.lookup

namespace BusTracks
variable {s t : Server V}

theorem init : BusTracks (init : Server V) :=
  ⟨fun _ _ => rfl, fun _ hr => absurd hr (Nat.not_lt_zero _)⟩

theorem of_frame (hb : BusTracks s) (hlen : t.ifaceHeap.length = s.ifaceHeap.length)
    (hname : ∀ r, (t.iface r).interfaceName = (s.iface r).interfaceName)
    (htable : ∀ r, (t.iface r).propertiesMap = (s.iface r).propertiesMap)
    (hsent : ∀ name, busView name t.sent = busView name s.sent) : BusTracks t where
  absent name h := by
    rw [hsent]
    exact hb.absent name fun r hr => by rw [← hname]; exact h r (hlen ▸ hr)
  unique r hr hu := by
    rw [hname, hsent, htable]
    exact hb.unique r (hlen ▸ hr) (NameUnique.of_names hlen hname hu)

theorem of_ifaces (hb : BusTracks s) (h₁ : t.ifaceHeap = s.ifaceHeap) (h₂ : t.sent = s.sent) :
    BusTracks t :=
  have hr : ∀ r, t.iface r = s.iface r := fun r => by simp [iface, h₁]
  hb.of_frame (by rw [h₁]) (fun r => by rw [hr]) (fun r => by rw [hr]) fun _ => by rw [h₂]

theorem appendObject (hb : BusTracks s) (x : DbusObject) :
    BusTracks { s with objectHeap := s.objectHeap ++ [x] } :=
  hb.of_ifaces rfl rfl

theorem send_reply (hb : BusTracks s) (m : Message V) (r : List (DbusValue V)) :
    BusTracks (s.send ((Message.newReturn m).pack r)) :=
  hb.of_frame rfl (fun _ => rfl) (fun _ => rfl) fun name => by
    rw [send, busView_concat, watch_reply]

theorem registerMethod (hb : BusTracks s) (r : Nat) (method : DbusMethod V) :
    BusTracks (s.registerMethod r method) :=
  have ht := tablesOnly_registerMethod s r method
  hb.of_frame ht.length_eq ht.name_eq
    (fun r' => by rw [iface_registerMethod]; split_ifs with h <;> simp [h]) fun _ => rfl

theorem newInterface (hb : BusTracks s) (name : String) : BusTracks (s.newInterface name).1 where
  absent name' h := hb.absent name' (absent_newInterface h)
  unique r hr hu := by
    rcases nameUnique_newInterface hr hu with ⟨hr, he, hu⟩ | ⟨rfl, he, habs⟩
    · rw [he]; exact hb.unique r hr hu
    · rw [he]; exact (hb.absent name habs).trans (funext fun _ => rfl)

theorem registerInterface (hb : BusTracks s) (o : Nat) {r : Nat} (hr : r < s.ifaceHeap.length) :
    BusTracks (s.registerInterface o r) := by
  have htable : ∀ r', ((s.registerInterface o r).iface r').propertiesMap =
      (s.iface r').propertiesMap := fun r' => by
    rw [iface_registerInterface]; split_ifs with h <;> simp [h]
  constructor
  · intro name h
    simp only [ifaceHeap_length_registerInterface, interfaceName_registerInterface] at h
    rw [sent_registerInterface, busView_concat, watch_interfacesAdded, if_neg (h r hr)]
    exact hb.absent name h
  · intro r' hr' hu
    simp only [ifaceHeap_length_registerInterface, interfaceName_registerInterface] at hr' ⊢
    have hu' := NameUnique.of_names (by simp) (interfaceName_registerInterface s o r) hu
    rw [sent_registerInterface, busView_concat, watch_interfacesAdded, htable]
    split_ifs with hn
    · obtain rfl : r = r' := by_contra fun hne => hu' r hr hne hn
      rfl
    · exact hb.unique r' hr' hu'

theorem newObject (hb : BusTracks s) (name : String) : BusTracks (s.newObject name).1 := by
  rw [newObject_eq]
  refine ((BusTracks.registerMethod ?_ _ _).registerMethod _ _).registerMethod _ _
  exact ((hb.appendObject _).newInterface _).registerInterface _ (by simp)

variable [DecidableEq V]

theorem setProperties (hb : BusTracks s) {r : Nat} (hr : r < s.ifaceHeap.length)
    (v : List (String × V)) : BusTracks (s.setProperties r v .valueChangeOnly) := by
  have hname := (tablesOnly_setProperties s r v .valueChangeOnly).name_eq
  have hsent : ∀ name, busView name (s.setProperties r v .valueChangeOnly).sent =
      if (s.iface r).interfaceName = name then
        assignView (busView name s.sent) (changedEntries (s.iface r).propertiesMap v)
      else busView name s.sent := fun name => by
    rw [sent_setProperties_valueChangeOnly, busView_concat, watch_propertiesChanged]
  constructor
  · intro name h
    simp only [ifaceHeap_length_setProperties, hname] at h
    rw [hsent, if_neg (h r hr)]
    exact hb.absent name h
  · intro r' hr' hu
    simp only [ifaceHeap_length_setProperties, hname] at hr' ⊢
    have hu' := NameUnique.of_names (by simp) hname hu
    rw [hsent, iface_setProperties]
    by_cases hrr : r' = r
    · subst hrr
      rw [if_pos rfl, if_pos ⟨rfl, hr⟩, hb.unique r' hr' hu', ← lookup_assignAll_eq_assignView,
        assignAll_changedEntries, DbusInterface.setProperties_valueChangeOnly_eq]
    · rw [if_neg fun h => hu' r hr (Ne.symm hrr) h, if_neg fun h => hrr h.1]
      exact hb.unique r' hr' hu'

theorem onMethodCall {ec : Nat} {m : Message V} (hi : Inv s) (hb : BusTracks s)
    (h : s.onMethodCall ec m = .ok t) : BusTracks t := by
  rcases onMethodCall_ok h with rfl | ⟨s', r, hs', rfl⟩
  · exact hb.of_ifaces rfl rfl
  · refine (BusTracks.send_reply (s := s') ?_ m r).of_ifaces rfl rfl
    rcases hs' with rfl | ⟨o, I, r', v, hr', rfl⟩
    · exact hb
    · exact hb.setProperties (hi.bound_lt o I r' hr') v

variable (sigOf : V → String)

theorem step {op : Op V} (hi : Inv s) (hb : BusTracks s) (hop : op.Forces = false)
    (h : Step sigOf s op t) : BusTracks t := by
  obtain ⟨hv, he⟩ := h
  cases op with
  | newObject name => cases he; exact hb.newObject name
  | addObject name => cases he; exact (hb.newObject name).of_ifaces rfl rfl
  | registerObject o => cases he; exact hb.of_ifaces rfl rfl
  | newInterface name => cases he; exact hb.newInterface name
  | addInterface o name => cases he; exact (hb.newInterface name).registerInterface o (by simp)
  | registerInterface o r => cases he; exact hb.registerInterface o hv.2
  | registerMethod r _ _ _ _ | registerDbusMethod r _ => cases he; exact hb.registerMethod r _
  | setProperties r v mode =>
    cases mode
    · cases he; exact hb.setProperties hv v
    · cases hop
  | introspect m | getManagedObjects m =>
    cases he; split_ifs
    · exact (hb.send_reply m _).of_ifaces rfl rfl
    · exact hb
  | methodCall ec m =>
    simp only [exec] at he
    split_ifs at he
    · exact BusTracks.onMethodCall (s := { s with methodArmed := false }) (hi.of_heaps rfl rfl)
        (hb.of_ifaces rfl rfl) he
    · cases he; exact hb

theorem run {ops : List (Op V)} (hrun : Run sigOf (fun _ op => op.Forces = false) s ops t)
    (hi : Inv s) (hb : BusTracks s) : BusTracks t := by
  induction hrun with
  | nil => exact hb
  | cons hop hstep _ ih => exact ih (hi.step sigOf hstep) (hb.step sigOf hi hop hstep)

end BusTracks

variable [DecidableEq V] (sigOf : V → String)

/-- Over every run without a `FORCE` call of `set_properties`, a client that follows the
`InterfacesAdded` and `PropertiesChanged` signals by interface name holds nothing for a name no
interface has, and, for every interface whose name no other interface has, exactly that
interface's live table. -/
theorem busView_tracks {s : Server V} {ops : List (Op V)}
    (hrun : Run sigOf (fun _ op => op.Forces = false) init ops s) :
    (∀ name, (∀ r < s.ifaceHeap.length, (s.iface r).interfaceName ≠ name) →
      busView name s.sent = fun _ => none) ∧
    ∀ r < s.ifaceHeap.length, s.NameUnique r →
      busView (s.iface r).interfaceName s.sent = (s.iface r).propertiesMap.lookup :=
  let hb := BusTracks.run sigOf hrun Inv.init BusTracks.init
  ⟨hb.absent, hb.unique⟩

/-- `/a` with an interface `I`, `x` set by `set_property` and then `y` by a `Properties.Set` call
over the bus. -/
theorem busView_tracks_set :
    let s₃ : Server Nat :=
      ((init.addObject "/a").1.addInterface 0 "I").1.setProperty 1 "x" 5 .valueChangeOnly
    let m : Message Nat :=
      { type := "method_call", path := "/a", interface := propertiesInterface, member := "Set",
        serial := 1, replySerial := 0, body := [.string "I", .string "y", .variant 7] }
    let s : Server Nat := rearmMethodFilter
      ((({ s₃ with methodArmed := false } : Server Nat).setProperty 1 "y" 7 .valueChangeOnly).send
        ((Message.newReturn m).pack []))
    Run (fun _ => "i") (fun _ op => op.Forces = false) init [.addObject "/a", .addInterface 0 "I",
        .setProperties 1 [("x", 5)] .valueChangeOnly, .methodCall 0 m] s ∧
      ((∀ name, (∀ r < s.ifaceHeap.length, (s.iface r).interfaceName ≠ name) →
          busView name s.sent = fun _ => none) ∧
        ∀ r < s.ifaceHeap.length, s.NameUnique r →
          busView (s.iface r).interfaceName s.sent = (s.iface r).propertiesMap.lookup) :=
  have hrun : Run (fun _ : Nat => "i") (fun _ op => op.Forces = false) init
      [.addObject "/a", .addInterface 0 "I", .setProperties 1 [("x", 5)] .valueChangeOnly,
        .methodCall 0
          { type := "method_call", path := "/a", interface := propertiesInterface, member := "Set",
            serial := 1, replySerial := 0, body := [.string "I", .string "y", .variant 7] }]
      (rearmMethodFilter ((({ ((init.addObject "/a").1.addInterface 0 "I").1.setProperty 1 "x" 5
          .valueChangeOnly with methodArmed := false } : Server Nat).setProperty 1 "y" 7
          .valueChangeOnly).send ((Message.newReturn
            { type := "method_call", path := "/a", interface := propertiesInterface,
              member := "Set", serial := 1, replySerial := 0,
              body := [.string "I", .string "y", .variant 7] }).pack []))) :=
    .cons rfl ⟨trivial, rfl⟩ <| .cons rfl ⟨by decide, rfl⟩ <| .cons rfl ⟨by decide, rfl⟩ <|
      .cons rfl ⟨trivial, rfl⟩ <| .nil _
  ⟨hrun, busView_tracks _ hrun⟩

/-- Every `PropertiesChanged` signal for the name of an interface that no other interface
shares, read by a client following that name, changes the client's table with each entry. -/
structure BusFresh (s : Server V) : Prop where
  absent : ∀ name, (∀ r < s.ifaceHeap.length, (s.iface r).interfaceName ≠ name) →
    Fresh name (fun _ => none) s.sent
  unique : ∀ r < s.ifaceHeap.length, s.NameUnique r →
    Fresh (s.iface r).interfaceName (fun _ => none) s.sent

namespace BusFresh
variable {V : Type} {s t : Server V}

theorem init : BusFresh (init : Server V) :=
  ⟨fun _ _ => trivial, fun _ hr => absurd hr (Nat.not_lt_zero _)⟩

theorem of_frame (hb : BusFresh s) (hlen : t.ifaceHeap.length = s.ifaceHeap.length)
    (hname : ∀ r, (t.iface r).interfaceName = (s.iface r).interfaceName)
    (hsent : ∀ name, Fresh name (fun _ => none) s.sent → Fresh name (fun _ => none) t.sent) :
    BusFresh t where
  absent name h := hsent _ (hb.absent name fun r hr => by rw [← hname]; exact h r (hlen ▸ hr))
  unique r hr hu := by
    rw [hname]
    exact hsent _ (hb.unique r (hlen ▸ hr) (NameUnique.of_names hlen hname hu))

theorem of_ifaces (hb : BusFresh s) (h₁ : t.ifaceHeap = s.ifaceHeap) (h₂ : t.sent = s.sent) :
    BusFresh t :=
  hb.of_frame (by rw [h₁]) (fun r => by simp [iface, h₁]) fun _ h => h₂ ▸ h

theorem send_reply (hb : BusFresh s) (m : Message V) (r : List (DbusValue V)) :
    BusFresh (s.send ((Message.newReturn m).pack r)) :=
  hb.of_frame rfl (fun _ => rfl) fun _ h => (fresh_concat _ _ _ _).2 ⟨h, freshFor_reply _ _ _ _⟩

theorem registerMethod (hb : BusFresh s) (r : Nat) (method : DbusMethod V) :
    BusFresh (s.registerMethod r method) :=
  have ht := tablesOnly_registerMethod s r method
  hb.of_frame ht.length_eq ht.name_eq fun _ h => h

theorem registerInterface (hb : BusFresh s) (o r : Nat) : BusFresh (s.registerInterface o r) :=
  hb.of_frame (by simp) (interfaceName_registerInterface s o r) fun name h => by
    rw [sent_registerInterface]
    exact (fresh_concat _ _ _ _).2 ⟨h, freshFor_interfacesAdded _ _ _ _ _⟩

theorem newInterface (hb : BusFresh s) (name : String) : BusFresh (s.newInterface name).1 where
  absent name' h := hb.absent name' (absent_newInterface h)
  unique r hr hu := by
    rcases nameUnique_newInterface hr hu with ⟨hr, he, hu⟩ | ⟨rfl, he, habs⟩
    · rw [he]; exact hb.unique r hr hu
    · rw [he]; exact hb.absent name habs

theorem newObject (hb : BusFresh s) (name : String) : BusFresh (s.newObject name).1 := by
  rw [newObject_eq]
  refine ((BusFresh.registerMethod ?_ _ _).registerMethod _ _).registerMethod _ _
  exact ((hb.of_ifaces (t := { s with objectHeap := s.objectHeap ++ [_] }) rfl rfl).newInterface
    _).registerInterface _ _

variable [DecidableEq V]

theorem setProperties (hb : BusFresh s) (ht : BusTracks s) {r : Nat}
    (hr : r < s.ifaceHeap.length) (v : List (String × V)) :
    BusFresh (s.setProperties r v .valueChangeOnly) := by
  have hname := (tablesOnly_setProperties s r v .valueChangeOnly).name_eq
  have hsent : ∀ name, Fresh name (fun _ => none) s.sent →
      ((s.iface r).interfaceName = name →
        ChangesEach (busView name s.sent) (changedEntries (s.iface r).propertiesMap v)) →
      Fresh name (fun _ => none) (s.setProperties r v .valueChangeOnly).sent := fun name h₁ h₂ => by
    rw [sent_setProperties_valueChangeOnly, fresh_concat]
    exact ⟨h₁, (freshFor_propertiesChanged _ _ _ _ _).2 h₂⟩
  constructor
  · intro name h
    simp only [ifaceHeap_length_setProperties, hname] at h
    exact hsent name (hb.absent name h) fun hn => absurd hn (h r hr)
  · intro r' hr' hu
    simp only [ifaceHeap_length_setProperties, hname] at hr' ⊢
    have hu' := NameUnique.of_names (by simp) hname hu
    refine hsent _ (hb.unique r' hr' hu') fun hn => ?_
    obtain rfl : r = r' := by_contra fun hne => hu' r hr hne hn
    rw [ht.unique r hr hu']
    exact changesEach_changedEntries _ _

theorem onMethodCall {ec : Nat} {m : Message V} (hi : Inv s) (hb : BusFresh s) (ht : BusTracks s)
    (h : s.onMethodCall ec m = .ok t) : BusFresh t := by
  rcases onMethodCall_ok h with rfl | ⟨s', r, hs', rfl⟩
  · exact hb.of_ifaces rfl rfl
  · refine (BusFresh.send_reply (s := s') ?_ m r).of_ifaces rfl rfl
    rcases hs' with rfl | ⟨o, I, r', v, hr', rfl⟩
    · exact hb
    · exact hb.setProperties ht (hi.bound_lt o I r' hr') v

variable (sigOf : V → String)

theorem step {op : Op V} (hi : Inv s) (hb : BusFresh s) (ht : BusTracks s)
    (hop : op.Forces = false) (h : Step sigOf s op t) : BusFresh t := by
  obtain ⟨hv, he⟩ := h
  cases op with
  | newObject name => cases he; exact hb.newObject name
  | addObject name => cases he; exact (hb.newObject name).of_ifaces rfl rfl
  | registerObject o => cases he; exact hb.of_ifaces rfl rfl
  | newInterface name => cases he; exact hb.newInterface name
  | addInterface o name => cases he; exact (hb.newInterface name).registerInterface o _
  | registerInterface o r => cases he; exact hb.registerInterface o r
  | registerMethod r _ _ _ _ | registerDbusMethod r _ => cases he; exact hb.registerMethod r _
  | setProperties r v mode =>
    cases mode
    · cases he; exact hb.setProperties ht hv v
    · cases hop
  | introspect m | getManagedObjects m =>
    cases he; split_ifs
    · exact (hb.send_reply m _).of_ifaces rfl rfl
    · exact hb
  | methodCall ec m =>
    simp only [exec] at he
    split_ifs at he
    · exact BusFresh.onMethodCall (s := { s with methodArmed := false }) (hi.of_heaps rfl rfl)
        (hb.of_ifaces rfl rfl) (ht.of_ifaces rfl rfl) he
    · cases he; exact hb

theorem run {ops : List (Op V)} (hrun : Run sigOf (fun _ op => op.Forces = false) s ops t)
    (hi : Inv s) (hb : BusFresh s) (ht : BusTracks s) : BusFresh t := by
  induction hrun with
  | nil => exact hb
  | cons hop hstep _ ih =>
    exact ih (hi.step sigOf hstep) (hb.step sigOf hi ht hop hstep) (ht.step sigOf hi hop hstep)

end BusFresh

variable {V : Type} [DecidableEq V] (sigOf : V → String)

/-- Over every run without a `FORCE` call of `set_properties`, no `PropertiesChanged` signal
repeats a value to a client: for every interface whose name no other interface has, a client
that follows the signals for that name finds that each entry of each `PropertiesChanged` signal
for it, assigned in order, changes its table. (A signal may still carry no entry at all.) -/
theorem propertiesChanged_entries_fresh {s : Server V} {ops : List (Op V)}
    (hrun : Run sigOf (fun _ op => op.Forces = false) init ops s) :
    ∀ r < s.ifaceHeap.length, s.NameUnique r →
      Fresh (s.iface r).interfaceName (fun _ => none) s.sent :=
  (BusFresh.run sigOf hrun Inv.init BusFresh.init BusTracks.init).unique

/-- `/a` with an interface `I`: `x` set to `5`, then `x` to `5` again and `y` to `1`; the
second signal carries only `y`. -/
theorem propertiesChanged_entries_fresh_reset :
    let s : Server Nat :=
      (((init.addObject "/a").1.addInterface 0 "I").1.setProperty 1 "x" 5 .valueChangeOnly
        ).setProperties 1 [("x", 5), ("y", 1)] .valueChangeOnly
    Run (fun _ => "i") (fun _ op => op.Forces = false) init [.addObject "/a", .addInterface 0 "I",
        .setProperties 1 [("x", 5)] .valueChangeOnly,
        .setProperties 1 [("x", 5), ("y", 1)] .valueChangeOnly] s ∧
      ∀ r < s.ifaceHeap.length, s.NameUnique r →
        Fresh (s.iface r).interfaceName (fun _ => none) s.sent :=
  have hrun : Run (fun _ : Nat => "i") (fun _ op => op.Forces = false) init
      [.addObject "/a", .addInterface 0 "I", .setProperties 1 [("x", 5)] .valueChangeOnly,
        .setProperties 1 [("x", 5), ("y", 1)] .valueChangeOnly]
      ((((init.addObject "/a").1.addInterface 0 "I").1.setProperty 1 "x" 5 .valueChangeOnly
        ).setProperties 1 [("x", 5), ("y", 1)] .valueChangeOnly) :=
    .cons rfl ⟨trivial, rfl⟩ <| .cons rfl ⟨by decide, rfl⟩ <| .cons rfl ⟨by decide, rfl⟩ <|
      .cons rfl ⟨by decide, rfl⟩ <| .nil _
  ⟨hrun, propertiesChanged_entries_fresh _ hrun⟩

end Server

end DbusProperties
