import DbusProperties.IntrospectXml
import Mathlib.Data.String.Basic

/-! # What a client reads from the introspection document

A client reads the document `get_xml_for_path` returns with an XML reader and looks at the
children of its `<node>` root. For every state that is `XmlSafe` the document parses
(`parseXml_getXmlForPath`), and this module says what a client finds among those children:

* away from `/`, the `<interface>` elements list exactly the methods `on_method_call` routes to,
  with their `get_args()` (`introspect_lists_routed_method`). The fixed `Peer` and
  `ObjectManager` blocks are left out: they list `Ping`, `GetMachineId` and `GetManagedObjects`
  at every path, which the method filter does not route;
* when every registered path below the request prefix continues with `/`, the names of the
  `<node>` children are `childSegments`, and each is the bytes the C++ cuts
  (`introspect_node_stubs`);
* a client that introspects `/` and then the child named by each `<node>` child it reads
  (`Discovers`) reaches every registered object whose path is a D-Bus object path other than
  `/`, and there reads the fixed blocks and the element of every interface in its table
  (`introspection_reaches_objects`). An object at `/` is not described
  (`introspect_root_object_missing`).

A path is built from its segments by `segmentsPath`; the walk follows its prefixes, one segment
at a time (`discovers_segments`).
-/

namespace DbusProperties
set_option autoImplicit false

/-! ## Object paths -/

/-- The path of a list of segments: `/` for none, else `/s₁/…/sₖ`. -/
def segmentsPath : List (List Char) → String
  | [] => "/"
  | x :: segs => ⟨(x :: segs).flatMap ('/' :: ·)⟩

/-- A D-Bus object path: `/`, or non-empty segments without `/`, each after a `/`. -/
def IsObjectPath (p : String) : Prop :=
  ∃ segs : List (List Char), (∀ x ∈ segs, x ≠ [] ∧ '/' ∉ x) ∧ p = segmentsPath segs

/-- The path of the child `stub` of `parent`, as a client forms it. -/
def childPath (parent stub : String) : String :=
  if parent = "/" then "/" ++ stub else parent ++ "/" ++ stub

theorem segmentsPath_ne_root {x : List Char} {segs : List (List Char)} (hx : x ≠ []) :
    segmentsPath (x :: segs) ≠ "/" := fun h => by
  have := congrArg String.data h
  simp only [segmentsPath, List.flatMap_cons, List.cons_append] at this
  exact hx (List.append_eq_nil.1 (List.cons.inj this).2).1

theorem data_normalised_segmentsPath {pre : List (List Char)} (h : ∀ x ∈ pre, x ≠ []) :
    (if segmentsPath pre = "/" then "" else segmentsPath pre).data = pre.flatMap ('/' :: ·) := by
  cases pre with
  | nil => rfl
  | cons x segs => rw [if_neg (segmentsPath_ne_root (h x (List.mem_cons_self _ _)))]; rfl

theorem childPath_segmentsPath {pre : List (List Char)} (h : ∀ x ∈ pre, x ≠ []) (x : List Char) :
    childPath (segmentsPath pre) ⟨x⟩ = segmentsPath (pre ++ [x]) := by
  cases pre with
  | nil => exact String.ext (by simp [childPath, segmentsPath])
  | cons y segs =>
    rw [childPath, if_neg (segmentsPath_ne_root (h y (List.mem_cons_self _ _)))]
    exact String.ext (by simp [segmentsPath])

theorem subnode_segments {pre rest : List (List Char)} {x : List Char} (hx : '/' ∉ x)
    {newpath : String} (hn : newpath.data = pre.flatMap ('/' :: ·)) :
    subnode ⟨(pre ++ x :: rest).flatMap ('/' :: ·)⟩ newpath = ⟨x⟩ := by
  rw [subnode_eq, ← String.length_data, hn]
  have hrest : (rest.flatMap ('/' :: ·)).takeWhile (· ≠ '/') = [] := by
    cases rest <;> simp
  have hdrop : (((pre ++ x :: rest).flatMap ('/' :: ·)).drop
      ((pre.flatMap ('/' :: ·)).length + 1)) = x ++ rest.flatMap ('/' :: ·) := by
    simp [List.drop_append_eq_append_drop]
  rw [hdrop, List.takeWhile_append_of_pos, hrest, List.append_nil]
  intro c hc
  simpa using ne_of_mem_of_not_mem hc hx

/-! ## The children of the root -/

namespace XmlTree

/-- The `name` attribute of a `<node>` element. -/
def nodeName? : XmlTree → Option String
  | .element name attrs _ => if name = "node" then attrs.lookup "name" else none

end XmlTree

namespace IntrospectItem

theorem nodeName?_tree (it : IntrospectItem) : it.tree.nodeName? = it.nodeName? := by
  cases it <;> rfl

theorem methodArgTree_injective : Function.Injective methodArgTree := fun ⟨_, _, _⟩ ⟨_, _, _⟩ h => by
  simp_all [methodArgTree]

theorem methodTree_injective : Function.Injective methodTree := fun ⟨_, _⟩ ⟨_, _⟩ h => by
  simp_all [methodTree, (List.map_injective_iff.2 methodArgTree_injective).eq_iff]

theorem methodTree_mem_body {method : String × List DbusArgument}
    {methods signals : List (String × List DbusArgument)} {properties : List (String × String)} :
    methodTree method ∈ methods.map methodTree ++ signals.map signalTree ++
      properties.map propertyTree ↔ method ∈ methods := by
  have hs : ∀ signal, signalTree signal ≠ methodTree method := fun _ h => by
    simp [signalTree, methodTree] at h
  have hp : ∀ property, propertyTree property ≠ methodTree method := fun _ h => by
    simp [propertyTree, methodTree] at h
  simp [methodTree_injective.eq_iff, hs, hp]

theorem tree_eq_interface {it : IntrospectItem} {I : String} {body : List XmlTree}
    (hI : I ≠ "org.freedesktop.DBus.Peer" ∧ I ≠ "org.freedesktop.DBus.ObjectManager")
    (h : it.tree = .element "interface" [("name", I)] body) :
    ∃ methods signals properties, it = .interface I methods signals properties ∧
      body = methods.map methodTree ++ signals.map signalTree ++ properties.map propertyTree := by
  cases it with
  | peer => simp [tree, peerTree] at h; exact absurd h.1.symm hI.1
  | objectManager => simp [tree, objectManagerTree] at h; exact absurd h.1.symm hI.2
  | interface name methods signals properties =>
    simp only [tree, XmlTree.element.injEq, List.cons.injEq, Prod.mk.injEq, true_and,
      and_true] at h
    exact ⟨methods, signals, properties, by rw [h.1], h.2.symm⟩
  | node name => simp [tree] at h

theorem interface_mem_map_tree {I : String}
    (hI : I ≠ "org.freedesktop.DBus.Peer" ∧ I ≠ "org.freedesktop.DBus.ObjectManager")
    (items : List IntrospectItem) (method : String × List DbusArgument) :
    (∃ body, .element "interface" [("name", I)] body ∈ items.map tree ∧ methodTree method ∈ body) ↔
      ∃ methods signals properties, .interface I methods signals properties ∈ items ∧
        method ∈ methods := by
  simp only [List.mem_map]
  constructor
  · rintro ⟨body, ⟨it, hit, he⟩, hm⟩
    obtain ⟨methods, signals, properties, rfl, rfl⟩ := tree_eq_interface hI he
    exact ⟨methods, signals, properties, hit, methodTree_mem_body.1 hm⟩
  · rintro ⟨methods, signals, properties, hit, hm⟩
    exact ⟨_, ⟨_, hit, rfl⟩, methodTree_mem_body.2 hm⟩

end IntrospectItem

namespace Server
variable {V : Type} (sigOf : V → String) (s : Server V)

/-- Away from the root, when object paths are distinct and every name the state writes is
`XmlSafe`, the document parses, and its `<interface>` elements, outside the fixed `Peer` and
`ObjectManager` blocks, list a `<method>` with given `<arg>`s exactly when `on_method_call` routes
a call to the path, interface and member to a method whose `get_args()` are those arguments. -/
theorem introspect_lists_routed_method (m : Message V) (hsafe : s.XmlSafe sigOf)
    (hP : m.path ≠ "/") (hd : (s.objects.map fun o => (s.object o).objectName).Nodup)
    (hI : m.interface ≠ "org.freedesktop.DBus.Peer" ∧
      m.interface ≠ "org.freedesktop.DBus.ObjectManager")
    (args : List DbusArgument) :
    ∃ children, parseXml (s.getXmlForPath sigOf m.path) = some (.element "node" [] children) ∧
      ((∃ body, .element "interface" [("name", m.interface)] body ∈ children ∧
          IntrospectItem.methodTree (m.member, args) ∈ body) ↔
        ∃ method, s.routedMethod m = some method ∧ method.getArgs = args) :=
  ⟨_, parseXml_getXmlForPath_eq sigOf s m.path (hsafe.attrsSafe m.path),
    (IntrospectItem.interface_mem_map_tree hI _ _).trans
      (introspectItems_lists_routed_method sigOf s m hP hd args)⟩

/-- `/a`, introspected at `/a`: the `<method name="Get">` of `org.freedesktop.DBus.Properties`
with the arguments of the handler a call to it reaches. -/
theorem introspect_lists_routed_method_get :
    let s : Server Nat := (init.addObject "/a").1
    let m : Message Nat :=
      { type := "method_call", path := "/a", interface := propertiesInterface, member := "Get",
        serial := 1, replySerial := 0, body := [] }
    s.XmlSafe (fun _ => "i") ∧ m.path ≠ "/" ∧
      (s.objects.map fun o => (s.object o).objectName).Nodup ∧
      (m.interface ≠ "org.freedesktop.DBus.Peer" ∧
        m.interface ≠ "org.freedesktop.DBus.ObjectManager") ∧
      ∃ children, parseXml (s.getXmlForPath (fun _ => "i") m.path) =
          some (.element "node" [] children) ∧
        ((∃ body, .element "interface" [("name", m.interface)] body ∈ children ∧
            IntrospectItem.methodTree (m.member, (getMethod Nat 0).getArgs) ∈ body) ↔
          ∃ method, s.routedMethod m = some method ∧
            method.getArgs = (getMethod Nat 0).getArgs) := by
  refine ⟨?safe, ?path, ?distinct, ?iface,
    introspect_lists_routed_method _ _ _ ?safe ?path ?distinct ?iface _⟩ <;> decide

/-- When every registered path that starts with the request prefix is the prefix or continues
with `/`, and every name the state writes is `XmlSafe`, the document parses and the names of its
`<node>` children are `childSegments`: the first segments of what follows the prefix and `/` in
the registered paths, each once, in order of first occurrence. Each is the bytes the C++ cuts from
the path. -/
theorem introspect_node_stubs (path : String) (hsafe : s.XmlSafe sigOf)
    (h : ∀ o ∈ s.objects,
      (if path = "/" then "" else path).data.isPrefixOf (s.object o).objectName.data →
        (s.object o).objectName = (if path = "/" then "" else path) ∨
          ((if path = "/" then "" else path).data ++ ['/']).isPrefixOf
            (s.object o).objectName.data) :
    ∃ children, parseXml (s.getXmlForPath sigOf path) = some (.element "node" [] children) ∧
      children.filterMap XmlTree.nodeName? =
        childSegments (if path = "/" then "" else path)
          (s.objects.map fun o => (s.object o).objectName) ∧
      ∀ o ∈ s.objects,
        (if path = "/" then "" else path).data.isPrefixOf (s.object o).objectName.data →
          utf8 (subnode (s.object o).objectName (if path = "/" then "" else path)) =
            subnodeBytes (s.object o).objectName (if path = "/" then "" else path) := by
  refine ⟨_, parseXml_getXmlForPath_eq sigOf s path (hsafe.attrsSafe path), ?_,
    fun o ho hp => hsafe.subnode_bytes ho hp⟩
  rw [List.filterMap_map, show XmlTree.nodeName? ∘ IntrospectItem.tree = IntrospectItem.nodeName?
    from funext IntrospectItem.nodeName?_tree]
  exact xmlItems_nodes sigOf s _ [] s.objects h

/-- `/a/b`, `/a/c/d` and `/a/b/e`, introspected at `/a`: the stubs `b` and `c`, once each. -/
theorem introspect_node_stubs_nested :
    let s : Server Nat :=
      (((init.addObject "/a/b").1.addObject "/a/c/d").1.addObject "/a/b/e").1
    s.XmlSafe (fun _ => "i") ∧
      (∀ o ∈ s.objects,
        (if "/a" = "/" then "" else "/a").data.isPrefixOf (s.object o).objectName.data →
          (s.object o).objectName = (if "/a" = "/" then "" else "/a") ∨
            ((if "/a" = "/" then "" else "/a").data ++ ['/']).isPrefixOf
              (s.object o).objectName.data) ∧
      ∃ children, parseXml (s.getXmlForPath (fun _ => "i") "/a") =
          some (.element "node" [] children) ∧
        children.filterMap XmlTree.nodeName? =
          childSegments (if "/a" = "/" then "" else "/a")
            (s.objects.map fun o => (s.object o).objectName) ∧
        ∀ o ∈ s.objects,
          (if "/a" = "/" then "" else "/a").data.isPrefixOf (s.object o).objectName.data →
            utf8 (subnode (s.object o).objectName (if "/a" = "/" then "" else "/a")) =
              subnodeBytes (s.object o).objectName (if "/a" = "/" then "" else "/a") := by
  refine ⟨?safe, ?below, introspect_node_stubs _ _ "/a" ?safe ?below⟩ <;> decide

/-! ## The walk -/

/-- The paths a client reaches by introspecting `/` and then, recursively, the child named by
each `<node>` child of the root of a document it has read. -/
inductive Discovers : String → Prop
  | root : Discovers "/"
  | child {parent stub : String} {children : List XmlTree} : Discovers parent →
      parseXml (s.getXmlForPath sigOf parent) = some (.element "node" [] children) →
      stub ∈ children.filterMap XmlTree.nodeName? → Discovers (childPath parent stub)

theorem node_mem_xmlItems (newpath : String) {o : Nat} (seen : List String) (l : List Nat)
    (ho : o ∈ l) (hne : (s.object o).objectName ≠ newpath)
    (hp : newpath.data.isPrefixOf (s.object o).objectName.data) :
    .node (subnode (s.object o).objectName newpath) ∈ s.xmlItems sigOf newpath seen l ∨
      subnode (s.object o).objectName newpath ∈ seen := by
  induction l generalizing seen with
  | nil => cases ho
  | cons o' rest ih =>
    simp only [xmlItems]
    rcases List.mem_cons.1 ho with rfl | ho
    · rw [if_neg hne, if_pos hp]
      split_ifs with hs
      · exact .inr hs
      · exact .inl (List.mem_cons_self _ _)
    · split_ifs with h₁ h₂ h₃
      · exact (ih seen ho).imp_left fun h =>
          List.mem_cons_of_mem _ (List.mem_cons_of_mem _ (List.mem_append_right _ h))
      · exact ih seen ho
      · rcases ih _ ho with h | h
        · exact .inl (List.mem_cons_of_mem _ h)
        · rcases List.mem_cons.1 h with h | h
          · exact .inl (h ▸ List.mem_cons_self _ _)
          · exact .inr h
      · exact ih seen ho

theorem object_items_mem_xmlItems {newpath : String} {o : Nat} (seen : List String) (l : List Nat)
    (ho : o ∈ l) (h : (s.object o).objectName = newpath) :
    ∀ it ∈ IntrospectItem.peer :: .objectManager ::
        (s.object o).interfaces.entries.map (s.interfaceItem sigOf),
      it ∈ s.xmlItems sigOf newpath seen l := by
  induction l generalizing seen with
  | nil => cases ho
  | cons o' rest ih =>
    intro it hit
    simp only [xmlItems]
    rcases List.mem_cons.1 ho with rfl | ho
    · rw [if_pos h]
      exact List.mem_append_left _ hit
    · split_ifs
      · exact List.mem_append_right _ (ih seen ho it hit)
      · exact ih seen ho it hit
      · exact List.mem_cons_of_mem _ (ih _ ho it hit)
      · exact ih seen ho it hit

theorem discovers_child (hsafe : s.XmlSafe sigOf) {parent stub : String}
    (hd : Discovers sigOf s parent) (h : .node stub ∈ s.introspectItems sigOf parent) :
    Discovers sigOf s (childPath parent stub) :=
  .child hd (parseXml_getXmlForPath_eq sigOf s parent (hsafe.attrsSafe parent))
    (List.mem_filterMap.2 ⟨(IntrospectItem.node stub).tree, List.mem_map_of_mem _ h, rfl⟩)

/-- From the path of `pre` on, the walk reaches the path of every longer list of segments of a
registered object. -/
theorem discovers_segments (hsafe : s.XmlSafe sigOf) {o : Nat} (ho : o ∈ s.objects)
    {segs : List (List Char)} (hsegs : ∀ x ∈ segs, x ≠ [] ∧ '/' ∉ x)
    (hname : (s.object o).objectName = segmentsPath segs) :
    ∀ rest pre, segs = pre ++ rest → Discovers sigOf s (segmentsPath pre) →
      Discovers sigOf s (segmentsPath segs) := by
  intro rest
  induction rest with
  | nil => intro pre h hd; rwa [h, List.append_nil]
  | cons x rest ih =>
    intro pre h hd
    have hpre : ∀ y ∈ pre, y ≠ [] := fun y hy => (hsegs y (h ▸ List.mem_append_left _ hy)).1
    have hx := hsegs x (h ▸ List.mem_append_right _ (List.mem_cons_self _ _))
    have hn := data_normalised_segmentsPath hpre
    have hdata : (s.object o).objectName =
        ⟨(pre ++ x :: rest).flatMap ('/' :: ·)⟩ := by
      rw [hname, h]
      cases pre <;> rfl
    have hstub : .node ⟨x⟩ ∈ s.introspectItems sigOf (segmentsPath pre) := by
      have hnode := node_mem_xmlItems sigOf s
        (if segmentsPath pre = "/" then "" else segmentsPath pre) [] s.objects ho
        (fun heq => by
          have := congrArg (·.length) (congrArg String.data heq)
          simp [hdata, hn] at this)
        (by rw [hdata, hn, List.isPrefixOf_iff_prefix]; simp)
      rw [hdata, subnode_segments hx.2 hn] at hnode
      exact hnode.resolve_right (List.not_mem_nil _)
    have := discovers_child sigOf s hsafe hd hstub
    rw [childPath_segmentsPath hpre] at this
    exact ih (pre ++ [x]) (by rw [h, List.append_assoc]; rfl) this

/-- For every state whose names are `XmlSafe`, every registered object whose path is a D-Bus
object path other than `/` is reached by walking the `<node>` children of the parsed documents
from `/`, and the document for its path parses, with the fixed `Peer` and `ObjectManager` blocks
and the element of every interface in the object's table among the children of its root. -/
theorem introspection_reaches_objects (hsafe : s.XmlSafe sigOf) {o : Nat} (ho : o ∈ s.objects)
    (hp : IsObjectPath (s.object o).objectName) (hroot : (s.object o).objectName ≠ "/") :
    Discovers sigOf s (s.object o).objectName ∧
      ∃ children, parseXml (s.getXmlForPath sigOf (s.object o).objectName) =
          some (.element "node" [] children) ∧
        IntrospectItem.peerTree ∈ children ∧ IntrospectItem.objectManagerTree ∈ children ∧
        ∀ e ∈ (s.object o).interfaces.entries, (s.interfaceItem sigOf e).tree ∈ children := by
  obtain ⟨segs, hsegs, hname⟩ := hp
  have hmem : ∀ it ∈ IntrospectItem.peer :: .objectManager ::
      (s.object o).interfaces.entries.map (s.interfaceItem sigOf),
      it.tree ∈ (s.introspectItems sigOf (s.object o).objectName).map IntrospectItem.tree :=
    fun it hit => List.mem_map_of_mem _ (by
      rw [introspectItems, if_neg hroot]
      exact object_items_mem_xmlItems sigOf s [] s.objects ho rfl it hit)
  exact ⟨hname ▸ discovers_segments sigOf s hsafe ho hsegs hname segs [] rfl .root, _,
    parseXml_getXmlForPath_eq sigOf s _ (hsafe.attrsSafe _), hmem _ (List.mem_cons_self _ _),
    hmem _ (List.mem_cons_of_mem _ (List.mem_cons_self _ _)),
    fun e he => hmem _ (List.mem_cons_of_mem _ (List.mem_cons_of_mem _ (List.mem_map_of_mem _ he)))⟩

/-- `/a/b` and `/c`: walking from `/` reaches `/a/b` through the stub `a` of `/`. -/
theorem introspection_reaches_objects_nested :
    let s : Server Nat := ((init.addObject "/a/b").1.addObject "/c").1
    s.XmlSafe (fun _ => "i") ∧ 0 ∈ s.objects ∧ IsObjectPath (s.object 0).objectName ∧
      (s.object 0).objectName ≠ "/" ∧
      (Discovers (fun _ => "i") s (s.object 0).objectName ∧
        ∃ children, parseXml (s.getXmlForPath (fun _ => "i") (s.object 0).objectName) =
            some (.element "node" [] children) ∧
          IntrospectItem.peerTree ∈ children ∧ IntrospectItem.objectManagerTree ∈ children ∧
          ∀ e ∈ (s.object 0).interfaces.entries,
            (s.interfaceItem (fun _ => "i") e).tree ∈ children) := by
  refine ⟨?safe, ?mem, ?path, ?root, introspection_reaches_objects _ _ ?safe ?mem ?path ?root⟩
  case path => exact ⟨[['a'], ['b']], by decide, rfl⟩
  all_goals decide

end Server

end DbusProperties
