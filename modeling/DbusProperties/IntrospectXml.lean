import DbusProperties.Introspect

/-! # The introspection document as XML

Clients read what `get_xml_for_path` returns as an XML 1.0 document of the D-Bus introspection
format. This module gives a reader for the part of XML that format uses and shows what it reads:
the element tree of the pieces `introspectItems` lists.

The reader accepts only well-formed documents and reports their elements as a conforming
processor that does not load the external DTD does. It has two layers, as XML parsers do.
`Lexer` reads characters into markup (`XmlEvent`): a document type declaration
`<!DOCTYPE Name ExternalID>` (production 28, without internal subset), start, end and
empty-element tags whose names are ASCII `Name`s (5), double-quoted attribute values of XML
`Char`s (2, 10), white space (3) between them. It rejects everything else: character data,
references, comments, a `<` or `&` in a value, and a repeated attribute (3.1). It also rejects
a tab, line feed or carriage return in a value, which attribute-value normalisation (3.3.3) would
turn into a space, so that every value it accepts reads back as written. `buildFrom` turns
markup into elements (`XmlTree`), checking that each end tag closes the innermost open element
and that one root element holds the rest (production 1). `parseXml` is the two together.

`IntrospectItem.tree` is the element each piece of the document stands for. The server writes
names and signatures into attribute values as they are, without escaping: the document reads back
as intended only when those values are `AttrSafe`, and a quote in a property name adds attributes
of its own. `Server.XmlSafe` asks it of every name the renderer writes, and asks that object paths
be ASCII, so that the byte positions of `subnode` are its character positions (`utf8_subnode`).
Under it every request path gets a well-formed document that reads back as the pieces' elements,
whatever the objects and tables (`parseXml_getXmlForPath`).
-/

namespace DbusProperties
set_option autoImplicit false

/-! ## Characters -/

/-- XML's `S` (3). -/
def isXmlSpace (c : Char) : Bool := c = ' ' || c = '\n' || c = '\t' || c = '\r'

/-- XML's `Char` (2): tab, line feed, carriage return, and the code points from `#x20` on other
than `#xFFFE` and `#xFFFF` (a `Char` is never a surrogate). -/
def isXmlChar (c : Char) : Bool :=
  c = '\t' || c = '\n' || c = '\r' || (0x20 ≤ c.toNat && c.toNat ≤ 0xFFFD) || 0x10000 ≤ c.toNat

/-- The ASCII characters of XML's `NameStartChar` (4); the reader takes no others. -/
def isNameStartChar (c : Char) : Bool := c.isAlpha || c = '_' || c = ':'

/-- The ASCII characters of XML's `NameChar` (4a). -/
def isNameChar (c : Char) : Bool := isNameStartChar c || c.isDigit || c = '-' || c = '.'

/-- A character that can stand in a double-quoted attribute value (10) and reads back as itself:
an XML `Char` other than `"`, `<` and `&`, and other than the tab, line feed and carriage return
that normalisation replaces. -/
def isAttrChar (c : Char) : Bool :=
  isXmlChar c && c != '"' && c != '<' && c != '&' && !(c = '\t' || c = '\n' || c = '\r')

/-- A string that can stand between double quotes as an attribute value and reads back as
itself. -/
def AttrSafe (x : String) : Prop := ∀ c ∈ x.data, isAttrChar c = true

instance (x : String) : Decidable (AttrSafe x) := inferInstanceAs (Decidable (∀ c ∈ x.data, _))

/-- XML's `PubidChar` (13); `39` is the apostrophe. -/
def isPubidChar (c : Char) : Bool :=
  c = ' ' || c = '\r' || c = '\n' || c.isAlphanum || c.toNat = 39 ||
    ['-', '(', ')', '+', ',', '.', '/', ':', '=', '?', ';', '!', '*', '#', '@', '$', '_',
      '%'].contains c

/-! ## The document type declaration -/

namespace Doctype

/-- `S`: at least one white space character; what follows. -/
def space : List Char → Option (List Char)
  | c :: cs => if isXmlSpace c then some (cs.dropWhile isXmlSpace) else none
  | [] => none

/-- A `Name` of ASCII characters; what follows. -/
def name : List Char → Option (List Char)
  | c :: cs => if isNameStartChar c then some (cs.dropWhile isNameChar) else none
  | [] => none

/-- A double-quoted literal of characters `ok` accepts; `ok` rejects `"`. What follows. -/
def literal (ok : Char → Bool) : List Char → Option (List Char)
  | '"' :: cs =>
    match cs.dropWhile ok with
    | '"' :: rest => some rest
    | _ => none
  | _ => none

/-- A `SystemLiteral` character (11) inside double quotes. -/
def isSystemChar (c : Char) : Bool := isXmlChar c && c != '"'

/-- `ExternalID` (75), with double-quoted literals; what follows. -/
def externalId (cs : List Char) : Option (List Char) :=
  if "SYSTEM".data.isPrefixOf cs then (space (cs.drop 6)).bind (literal isSystemChar)
  else if "PUBLIC".data.isPrefixOf cs then
    (((space (cs.drop 6)).bind (literal isPubidChar)).bind space).bind (literal isSystemChar)
  else none

end Doctype

/-- The text between `<!` and `>` is a document type declaration without internal subset:
`DOCTYPE S Name (S ExternalID)? S?` (28). -/
def isDoctype (cs : List Char) : Bool :=
  "DOCTYPE".data.isPrefixOf cs &&
    match (Doctype.space (cs.drop 7)).bind Doctype.name with
    | none => false
    | some rest =>
      (rest.dropWhile isXmlSpace).isEmpty ||
        match (Doctype.space rest).bind Doctype.externalId with
        | some tail => (tail.dropWhile isXmlSpace).isEmpty
        | none => false

/-! ## Markup -/

/-- A piece of markup. -/
inductive XmlEvent where
  /-- a document type declaration -/
  | decl
  /-- a start tag `<name a="v" ...>` -/
  | start (name : String) (attrs : List (String × String))
  /-- an empty-element tag `<name a="v" .../>` -/
  | empty (name : String) (attrs : List (String × String))
  /-- an end tag `</name>` -/
  | stop (name : String)
deriving DecidableEq

/-- Where the lexer is: between tags, or inside one with what it has read of it. -/
inductive Lex where
  | text
  /-- after `<` -/
  | lt
  /-- inside `<!...>`, with what it has read, last first, and whether it is inside a quoted
  literal -/
  | decl (quoted : Bool) (chars : List Char)
  | tagName (name : List Char)
  /-- inside a start tag, between attributes -/
  | inTag (name : String) (attrs : List (String × String))
  | attrName (name : String) (attrs : List (String × String)) (attr : List Char)
  /-- after an attribute name and white space -/
  | beforeEq (name : String) (attrs : List (String × String)) (attr : String)
  | afterEq (name : String) (attrs : List (String × String)) (attr : String)
  | value (name : String) (attrs : List (String × String)) (attr : String) (chars : List Char)
  /-- after the closing quote of a value -/
  | afterValue (name : String) (attrs : List (String × String))
  /-- after the `/` of an empty-element tag -/
  | slash (name : String) (attrs : List (String × String))
  | endName (name : List Char)
  | error
deriving DecidableEq

/-- The lexer's state: where it is, and the markup read so far, last first. -/
structure Lexer where
  lex : Lex
  events : List XmlEvent
deriving DecidableEq

namespace Lexer

def fail (r : Lexer) : Lexer := { r with lex := .error }

/-- A tag is complete. -/
def emit (r : Lexer) (e : XmlEvent) : Lexer := ⟨.text, e :: r.events⟩

/-- The closing quote of a value: its attribute must be new in the tag. -/
def endValue (r : Lexer) (name : String) (attrs : List (String × String)) (attr : String)
    (chars : List Char) : Lexer :=
  if attr ∈ attrs.map Prod.fst then r.fail
  else { r with lex := .afterValue name (attrs ++ [(attr, ⟨chars⟩)]) }

/-- Read one character. -/
def step (r : Lexer) (c : Char) : Lexer :=
  match r.lex with
  | .text =>
    if c = '<' then { r with lex := .lt }
    else if isXmlSpace c then r
    else r.fail
  | .lt =>
    if c = '!' then { r with lex := .decl false [] }
    else if c = '/' then { r with lex := .endName [] }
    else if isNameStartChar c then { r with lex := .tagName [c] }
    else r.fail
  | .decl quoted chars =>
    if c = '>' ∧ !quoted then (if isDoctype chars.reverse then r.emit .decl else r.fail)
    else { r with lex := .decl (if c = '"' then !quoted else quoted) (c :: chars) }
  | .tagName name =>
    if isNameChar c then { r with lex := .tagName (name ++ [c]) }
    else if isXmlSpace c then { r with lex := .inTag ⟨name⟩ [] }
    else if c = '>' then r.emit (.start ⟨name⟩ [])
    else if c = '/' then { r with lex := .slash ⟨name⟩ [] }
    else r.fail
  | .inTag name attrs =>
    if isXmlSpace c then r
    else if isNameStartChar c then { r with lex := .attrName name attrs [c] }
    else if c = '>' then r.emit (.start name attrs)
    else if c = '/' then { r with lex := .slash name attrs }
    else r.fail
  | .attrName name attrs attr =>
    if isNameChar c then { r with lex := .attrName name attrs (attr ++ [c]) }
    else if isXmlSpace c then { r with lex := .beforeEq name attrs ⟨attr⟩ }
    else if c = '=' then { r with lex := .afterEq name attrs ⟨attr⟩ }
    else r.fail
  | .beforeEq name attrs attr =>
    if isXmlSpace c then r
    else if c = '=' then { r with lex := .afterEq name attrs attr }
    else r.fail
  | .afterEq name attrs attr =>
    if isXmlSpace c then r
    else if c = '"' then { r with lex := .value name attrs attr [] }
    else r.fail
  | .value name attrs attr chars =>
    if c = '"' then r.endValue name attrs attr chars
    else if isAttrChar c then { r with lex := .value name attrs attr (chars ++ [c]) }
    else r.fail
  | .afterValue name attrs =>
    if isXmlSpace c then { r with lex := .inTag name attrs }
    else if c = '>' then r.emit (.start name attrs)
    else if c = '/' then { r with lex := .slash name attrs }
    else r.fail
  | .slash name attrs => if c = '>' then r.emit (.empty name attrs) else r.fail
  | .endName name =>
    if isNameStartChar c || (!name.isEmpty && isNameChar c) then
      { r with lex := .endName (name ++ [c]) }
    else if c = '>' ∧ !name.isEmpty then r.emit (.stop ⟨name⟩)
    else r.fail
  | .error => r

/-- Read the characters in order. -/
def readFrom (r : Lexer) (cs : List Char) : Lexer := cs.foldl step r

theorem readFrom_append (r : Lexer) (a b : List Char) :
    readFrom r (a ++ b) = readFrom (readFrom r a) b := List.foldl_append _ _ _ _

theorem ne_quote_of_isAttrChar {c : Char} (h : isAttrChar c = true) : c ≠ '"' := by
  rintro rfl
  exact absurd h (by decide)

theorem readFrom_value {x : String} (h : AttrSafe x) (name : String)
    (attrs : List (String × String)) (attr : String) (chars : List Char) (e : List XmlEvent) :
    readFrom ⟨.value name attrs attr chars, e⟩ x.data =
      ⟨.value name attrs attr (chars ++ x.data), e⟩ := by
  obtain ⟨cs⟩ := x
  induction cs generalizing chars with
  | nil => simp [readFrom]
  | cons c cs ih =>
    have hc := h c (List.mem_cons_self _ _)
    have hs : step ⟨.value name attrs attr chars, e⟩ c =
        ⟨.value name attrs attr (chars ++ [c]), e⟩ := by
      simp [step, ne_quote_of_isAttrChar hc, hc]
    simpa [readFrom, hs] using ih (chars ++ [c]) (fun c' hc' => h c' (List.mem_cons_of_mem _ hc'))

/-- Read the characters of a string. -/
def read (r : Lexer) (s : String) : Lexer := readFrom r s.data

theorem read_append (r : Lexer) (a b : String) : read r (a ++ b) = read (read r a) b :=
  readFrom_append r a.data b.data

theorem read_value {x : String} (h : AttrSafe x) (name : String) (attrs : List (String × String))
    (attr : String) (chars : List Char) (e : List XmlEvent) :
    read ⟨.value name attrs attr chars, e⟩ x = ⟨.value name attrs attr (chars ++ x.data), e⟩ :=
  readFrom_value h name attrs attr chars e

theorem step_events (l : Lex) (e : List XmlEvent) (c : Char) :
    step ⟨l, e⟩ c = ⟨(step ⟨l, []⟩ c).lex, (step ⟨l, []⟩ c).events ++ e⟩ := by
  have hlex : (step ⟨l, e⟩ c).lex = (step ⟨l, []⟩ c).lex := by
    cases l <;> simp only [step, fail, emit, endValue, apply_ite Lexer.lex]
  have hev : (step ⟨l, e⟩ c).events = (step ⟨l, []⟩ c).events ++ e := by
    cases l <;> simp only [step, fail, emit, endValue, apply_ite Lexer.events, apply_ite (· ++ e),
      List.nil_append, List.cons_append]
  rw [← hlex, ← hev]

theorem readFrom_events (l : Lex) (e : List XmlEvent) (cs : List Char) :
    readFrom ⟨l, e⟩ cs = ⟨(readFrom ⟨l, []⟩ cs).lex, (readFrom ⟨l, []⟩ cs).events ++ e⟩ := by
  induction cs generalizing l e with
  | nil => rfl
  | cons c cs ih =>
    simp only [readFrom, List.foldl_cons] at ih ⊢
    rw [step_events l e]
    obtain ⟨l', e'⟩ := step ⟨l, []⟩ c
    rw [ih l' (e' ++ e), ih l' e', List.append_assoc]

end Lexer

/-! ## Elements -/

/-- An element: its name, its attributes in order, and its child elements. -/
inductive XmlTree where
  | element (name : String) (attrs : List (String × String)) (children : List XmlTree)

/-- An element being read: its name and attributes, and its children so far, last first. -/
structure Frame where
  name : String
  attrs : List (String × String)
  children : List XmlTree

/-- The builder's state: the open elements, innermost first, and the root once it is closed. -/
structure Builder where
  frames : List Frame
  root : Option XmlTree

namespace Builder

/-- A complete element goes to the innermost open element, or is the root if there is none yet. -/
def add (b : Builder) (t : XmlTree) : Option Builder :=
  match b.frames with
  | f :: rest => some ⟨{ f with children := t :: f.children } :: rest, b.root⟩
  | [] => if b.root.isNone then some ⟨[], some t⟩ else none

/-- Take one piece of markup. A declaration may only come first, which `parseXml` checks. -/
def step (b : Builder) : XmlEvent → Option Builder
  | .decl => none
  | .start name attrs =>
    if b.frames.isEmpty ∧ b.root.isSome then none
    else some ⟨⟨name, attrs, []⟩ :: b.frames, b.root⟩
  | .empty name attrs => b.add (.element name attrs [])
  | .stop name =>
    match b.frames with
    | f :: rest =>
      if f.name = name then add ⟨rest, b.root⟩ (.element name f.attrs f.children.reverse)
      else none
    | [] => none

end Builder

/-- Take the markup in order. -/
def buildFrom (b : Builder) : List XmlEvent → Option Builder
  | [] => some b
  | e :: es => (b.step e).bind (buildFrom · es)

theorem buildFrom_append (b : Builder) (es₁ es₂ : List XmlEvent) :
    buildFrom b (es₁ ++ es₂) = (buildFrom b es₁).bind (buildFrom · es₂) := by
  induction es₁ generalizing b with
  | nil => rfl
  | cons e es ih =>
    simp only [List.cons_append, buildFrom, Option.bind_assoc]
    exact congrArg _ (funext fun b' => ih b')

/-- The markup after a first declaration, if there is one. -/
def dropDecl : List XmlEvent → List XmlEvent
  | .decl :: es => es
  | es => es

theorem dropDecl_decl (es : List XmlEvent) : dropDecl (.decl :: es) = es := rfl

/-- The element a document is: lex it, leave out a first declaration, build. -/
def parseXml (doc : String) : Option XmlTree :=
  let r := Lexer.read ⟨.text, []⟩ doc
  if r.lex = .text then
    match buildFrom ⟨[], none⟩ (dropDecl r.events.reverse) with
    | some ⟨[], some t⟩ => some t
    | _ => none
  else none

theorem parseXml_of_read {doc : String} {es : List XmlEvent} {t : XmlTree}
    (h : Lexer.read ⟨.text, []⟩ doc = ⟨.text, (XmlEvent.decl :: es).reverse⟩)
    (hb : buildFrom ⟨[], none⟩ es = some ⟨[], some t⟩) : parseXml doc = some t := by
  unfold parseXml
  rw [h]
  simp only [List.reverse_reverse, if_true, dropDecl_decl, hb]

/-! ## Reading a piece inside an open element -/

/-- Lexing `text` between tags gives the markup `es` and ends between tags. -/
def Lexes (text : String) (es : List XmlEvent) : Prop :=
  ∀ e, Lexer.read ⟨.text, e⟩ text = ⟨.text, es.reverse ++ e⟩

/-- Building `es` inside an open element adds the elements `ts` to its children, in order. -/
def Adds (es : List XmlEvent) (ts : List XmlTree) : Prop :=
  ∀ f rest root, buildFrom ⟨f :: rest, root⟩ es =
    some ⟨{ f with children := ts.reverse ++ f.children } :: rest, root⟩

/-- Reading `text` inside an open element adds the elements `ts` to its children. -/
def Reads (text : String) (ts : List XmlTree) : Prop := ∃ es, Lexes text es ∧ Adds es ts

theorem Lexes.append {a b : String} {es₁ es₂ : List XmlEvent} (h₁ : Lexes a es₁)
    (h₂ : Lexes b es₂) : Lexes (a ++ b) (es₁ ++ es₂) := fun e => by
  rw [Lexer.read_append, h₁, h₂, List.reverse_append, List.append_assoc]

theorem Adds.append {es₁ es₂ : List XmlEvent} {ts₁ ts₂ : List XmlTree} (h₁ : Adds es₁ ts₁)
    (h₂ : Adds es₂ ts₂) : Adds (es₁ ++ es₂) (ts₁ ++ ts₂) := fun f rest root => by
  rw [buildFrom_append, h₁, Option.some_bind, h₂, List.reverse_append, List.append_assoc]

theorem Reads.nil : Reads "" [] := ⟨[], fun _ => rfl, fun _ _ _ => rfl⟩

theorem Reads.append {a b : String} {ts₁ ts₂ : List XmlTree} (h₁ : Reads a ts₁)
    (h₂ : Reads b ts₂) : Reads (a ++ b) (ts₁ ++ ts₂) :=
  let ⟨_, l₁, a₁⟩ := h₁
  let ⟨_, l₂, a₂⟩ := h₂
  ⟨_, l₁.append l₂, a₁.append a₂⟩

theorem string_join_cons (x : String) (l : List String) :
    String.join (x :: l) = x ++ String.join l :=
  String.ext (by simp [String.data_join])

theorem Reads.join {α : Type} (l : List α) (text : α → String) (tree : α → XmlTree)
    (h : ∀ x ∈ l, Reads (text x) [tree x]) : Reads (String.join (l.map text)) (l.map tree) := by
  induction l with
  | nil => exact Reads.nil
  | cons x l ih =>
    have hx := h x (List.mem_cons_self _ _)
    have hl := ih fun y hy => h y (List.mem_cons_of_mem _ hy)
    rw [List.map_cons, List.map_cons, string_join_cons]
    exact hx.append hl

theorem Reads.emptyTag {text name : String} {attrs : List (String × String)}
    (h : Lexes text [.empty name attrs]) : Reads text [.element name attrs []] :=
  ⟨_, h, fun _ _ _ => rfl⟩

theorem Reads.element {openTag body closeTag name : String} {attrs : List (String × String)}
    {ts : List XmlTree} (ho : Lexes openTag [.start name attrs]) (hb : Reads body ts)
    (hc : Lexes closeTag [.stop name]) :
    Reads (openTag ++ body ++ closeTag) [.element name attrs ts] := by
  obtain ⟨es, hl, ha⟩ := hb
  refine ⟨.start name attrs :: es ++ [.stop name], (ho.append hl).append hc, fun f rest root => ?_⟩
  have hstart : buildFrom ⟨f :: rest, root⟩ (.start name attrs :: es ++ [.stop name]) =
      buildFrom ⟨⟨name, attrs, []⟩ :: f :: rest, root⟩ (es ++ [.stop name]) := rfl
  rw [hstart, buildFrom_append, ha, Option.some_bind]
  simp [buildFrom, Builder.step, Builder.add]

theorem Lexes.of_nil {text : String} {es : List XmlEvent}
    (h : Lexer.read ⟨.text, []⟩ text = ⟨.text, es.reverse⟩) : Lexes text es := fun e => by
  rw [Lexer.read] at h ⊢
  rw [Lexer.readFrom_events, h]

theorem Reads.startStop {openTag closeTag name : String} {attrs : List (String × String)}
    (ho : Lexes openTag [.start name attrs]) (hc : Lexes closeTag [.stop name]) :
    Reads (openTag ++ closeTag) [.element name attrs []] := by
  simpa using Reads.element ho Reads.nil hc

/-! ## The tags the server writes

Each tag of the document opens with a literal up to its first value, e.g. `<method name="`, which
the lexer reads from between tags into that value (`fun _ => rfl` at each use). After a value
come the literals below. -/

section Tags
open Lexer
variable {name attr : String} {attrs : List (String × String)} {chars : List Char}
  (e : List XmlEvent)

theorem readFrom_quote (h : attr ∉ attrs.map Prod.fst) (cs : List Char) :
    readFrom ⟨.value name attrs attr chars, e⟩ ('"' :: cs) =
      readFrom ⟨.afterValue name (attrs ++ [(attr, ⟨chars⟩)]), e⟩ cs := by
  simp [readFrom, step, endValue, h]

theorem read_closeStart (h : attr ∉ attrs.map Prod.fst) :
    read ⟨.value name attrs attr chars, e⟩ "\">" =
      ⟨.text, .start name (attrs ++ [(attr, ⟨chars⟩)]) :: e⟩ :=
  (readFrom_quote e h _).trans rfl

theorem read_closeEmpty (h : attr ∉ attrs.map Prod.fst) :
    read ⟨.value name attrs attr chars, e⟩ "\"/>" =
      ⟨.text, .empty name (attrs ++ [(attr, ⟨chars⟩)]) :: e⟩ :=
  (readFrom_quote e h _).trans rfl

theorem read_typeAttr (h : attr ∉ attrs.map Prod.fst) :
    read ⟨.value name attrs attr chars, e⟩ "\" type=\"" =
      ⟨.value name (attrs ++ [(attr, ⟨chars⟩)]) "type" [], e⟩ :=
  (readFrom_quote e h _).trans rfl

theorem read_directionAttr (h : attr ∉ attrs.map Prod.fst) :
    read ⟨.value name attrs attr chars, e⟩ "\" direction=\"" =
      ⟨.value name (attrs ++ [(attr, ⟨chars⟩)]) "direction" [], e⟩ :=
  (readFrom_quote e h _).trans rfl

theorem read_spacedTypeAttr (h : attr ∉ attrs.map Prod.fst) :
    read ⟨.value name attrs attr chars, e⟩ "\" type =\"" =
      ⟨.value name (attrs ++ [(attr, ⟨chars⟩)]) "type" [], e⟩ :=
  (readFrom_quote e h _).trans rfl

theorem read_spacedDirectionAttr (h : attr ∉ attrs.map Prod.fst) :
    read ⟨.value name attrs attr chars, e⟩ "\" direction =\"" =
      ⟨.value name (attrs ++ [(attr, ⟨chars⟩)]) "direction" [], e⟩ :=
  (readFrom_quote e h _).trans rfl

theorem lexes_startTag {opening tag v : String}
    (ho : ∀ e, read ⟨.text, e⟩ opening = ⟨.value tag [] "name" [], e⟩)
    (hv : AttrSafe v) : Lexes (opening ++ v ++ "\">") [.start tag [("name", v)]] := fun e => by
  rw [read_append, read_append, ho, read_value hv, read_closeStart e (List.not_mem_nil _)]
  rfl

theorem lexes_methodArg (a : DbusArgument)
    (h : AttrSafe a.name ∧ AttrSafe a.type ∧ AttrSafe a.direction) :
    Lexes ("<arg name=\"" ++ a.name ++ "\" type=\"" ++ a.type ++ "\" direction=\"" ++ a.direction ++
      "\"/>") [.empty "arg" [("name", a.name), ("type", a.type), ("direction", a.direction)]] :=
  fun e => by
    have ho : read ⟨.text, e⟩ "<arg name=\"" = ⟨.value "arg" [] "name" [], e⟩ := rfl
    simp (disch := simp) only [read_append, ho, read_value h.1, read_typeAttr,
      read_value h.2.1, read_directionAttr, read_value h.2.2, read_closeEmpty]
    rfl

theorem lexes_signalArg (a : DbusArgument) (h : AttrSafe a.name ∧ AttrSafe a.type) :
    Lexes ("<arg name=\"" ++ a.name ++ "\" type=\"" ++ a.type ++ "\"/>")
      [.empty "arg" [("name", a.name), ("type", a.type)]] := fun e => by
  have ho : read ⟨.text, e⟩ "<arg name=\"" = ⟨.value "arg" [] "name" [], e⟩ := rfl
  simp (disch := simp) only [read_append, ho, read_value h.1, read_typeAttr, read_value h.2,
    read_closeEmpty]
  rfl

theorem lexes_property (p : String × String) (h : AttrSafe p.1 ∧ AttrSafe p.2) :
    Lexes ("<property name=\"" ++ p.1 ++ "\" type =\"" ++ p.2 ++ "\" direction =\"" ++
      "readwrite" ++ "\"/>")
      [.empty "property" [("name", p.1), ("type", p.2), ("direction", "readwrite")]] := fun e => by
  have ho : read ⟨.text, e⟩ "<property name=\"" = ⟨.value "property" [] "name" [], e⟩ := rfl
  have hr : AttrSafe "readwrite" := by decide
  simp (disch := simp) only [read_append, ho, read_value h.1, read_spacedTypeAttr,
    read_value h.2, read_spacedDirectionAttr, read_value hr, read_closeEmpty]
  rfl

/-- Without the condition, a quote in a property name ends the value early, and the rest of the
name is read as further attributes of the `<property>` element. -/
example : read ⟨.text, []⟩ (IntrospectItem.propertyXml ("x\" access=\"read", "i")) =
    ⟨.text, [.empty "property" [("name", "x"), ("access", "read"), ("type", "i"),
      ("direction", "readwrite")]]⟩ := by
  decide

end Tags

/-! ## The pieces of the document -/

namespace IntrospectItem

/-- The fixed `Peer` block. -/
def peerTree : XmlTree :=
  .element "interface" [("name", "org.freedesktop.DBus.Peer")]
    [.element "method" [("name", "Ping")] [],
      .element "method" [("name", "GetMachineId")]
        [.element "arg" [("type", "s"), ("name", "machine_uuid"), ("direction", "out")] []]]

/-- The fixed `ObjectManager` block. -/
def objectManagerTree : XmlTree :=
  .element "interface" [("name", "org.freedesktop.DBus.ObjectManager")]
    [.element "method" [("name", "GetManagedObjects")]
      [.element "arg" [("type", "a\x7boa\x7bsa\x7bsv\x7d\x7d\x7d"),
        ("name", "object_paths_interfaces_and_properties"), ("direction", "out")] []],
      .element "signal" [("name", "InterfacesAdded")]
        [.element "arg" [("type", "o"), ("name", "object_path")] [],
          .element "arg" [("type", "a\x7bsa\x7bsv\x7d\x7d"), ("name", "interfaces_and_properties")] []],
      .element "signal" [("name", "InterfacesRemoved")]
        [.element "arg" [("type", "o"), ("name", "object_path")] [],
          .element "arg" [("type", "as"), ("name", "interfaces")] []]]

/-- The `<arg>` of a method argument. -/
def methodArgTree (a : DbusArgument) : XmlTree :=
  .element "arg" [("name", a.name), ("type", a.type), ("direction", a.direction)] []

/-- The `<arg>` of a signal argument. -/
def signalArgTree (a : DbusArgument) : XmlTree :=
  .element "arg" [("name", a.name), ("type", a.type)] []

def methodTree (method : String × List DbusArgument) : XmlTree :=
  .element "method" [("name", method.1)] (method.2.map methodArgTree)

def signalTree (signal : String × List DbusArgument) : XmlTree :=
  .element "signal" [("name", signal.1)] (signal.2.map signalArgTree)

def propertyTree (property : String × String) : XmlTree :=
  .element "property" [("name", property.1), ("type", property.2), ("direction", "readwrite")] []

/-- The element the piece stands for. -/
def tree : IntrospectItem → XmlTree
  | .peer => peerTree
  | .objectManager => objectManagerTree
  | .interface name methods signals properties =>
    .element "interface" [("name", name)]
      (methods.map methodTree ++ signals.map signalTree ++ properties.map propertyTree)
  | .node name => .element "node" [("name", name)] []

/-- Every string of the server's state that the piece writes between double quotes is
`AttrSafe`. -/
def AttrsSafe : IntrospectItem → Prop
  | .peer | .objectManager => True
  | .interface name methods signals properties =>
    AttrSafe name ∧
      (∀ m ∈ methods, AttrSafe m.1 ∧
        ∀ a ∈ m.2, AttrSafe a.name ∧ AttrSafe a.type ∧ AttrSafe a.direction) ∧
      (∀ sg ∈ signals, AttrSafe sg.1 ∧ ∀ a ∈ sg.2, AttrSafe a.name ∧ AttrSafe a.type) ∧
      ∀ p ∈ properties, AttrSafe p.1 ∧ AttrSafe p.2
  | .node name => AttrSafe name

instance : (it : IntrospectItem) → Decidable it.AttrsSafe
  | .peer | .objectManager => isTrue trivial
  | .interface .. => inferInstanceAs (Decidable (_ ∧ _))
  | .node name => inferInstanceAs (Decidable (AttrSafe name))

set_option maxRecDepth 4000 in
theorem reads_peer : Reads peerXml [peerTree] :=
  ⟨[.start "interface" [("name", "org.freedesktop.DBus.Peer")], .empty "method" [("name", "Ping")],
    .start "method" [("name", "GetMachineId")],
    .empty "arg" [("type", "s"), ("name", "machine_uuid"), ("direction", "out")],
    .stop "method", .stop "interface"], Lexes.of_nil (by decide), fun _ _ _ => rfl⟩

set_option maxRecDepth 8000 in
theorem reads_objectManager : Reads objectManagerXml [objectManagerTree] :=
  ⟨[.start "interface" [("name", "org.freedesktop.DBus.ObjectManager")],
    .start "method" [("name", "GetManagedObjects")],
    .empty "arg" [("type", "a\x7boa\x7bsa\x7bsv\x7d\x7d\x7d"),
      ("name", "object_paths_interfaces_and_properties"), ("direction", "out")],
    .stop "method",
    .start "signal" [("name", "InterfacesAdded")],
    .empty "arg" [("type", "o"), ("name", "object_path")],
    .empty "arg" [("type", "a\x7bsa\x7bsv\x7d\x7d"), ("name", "interfaces_and_properties")],
    .stop "signal",
    .start "signal" [("name", "InterfacesRemoved")],
    .empty "arg" [("type", "o"), ("name", "object_path")],
    .empty "arg" [("type", "as"), ("name", "interfaces")],
    .stop "signal", .stop "interface"], Lexes.of_nil (by decide), fun _ _ _ => rfl⟩

theorem reads_render : (it : IntrospectItem) → it.AttrsSafe → Reads it.render [it.tree]
  | .peer, _ => reads_peer
  | .objectManager, _ => reads_objectManager
  | .interface name methods signals properties, ⟨hn, hm, hs, hp⟩ => by
    have e : (interface name methods signals properties).render =
        ("<interface name=\"" ++ name ++ "\">") ++ (String.join (methods.map methodXml) ++
          String.join (signals.map signalXml) ++ String.join (properties.map propertyXml)) ++
          "</interface>" := by
      simp only [render, String.append_assoc]
    rw [e]
    refine Reads.element (lexes_startTag (fun _ => rfl) hn) (.append (.append ?_ ?_) ?_)
      (fun _ => rfl)
    · refine Reads.join _ _ _ fun m hm' => Reads.element (lexes_startTag (fun _ => rfl)
        (hm m hm').1) (Reads.join _ _ _ fun a ha => ?_) (fun _ => rfl)
      exact Reads.emptyTag (lexes_methodArg a ((hm m hm').2 a ha))
    · refine Reads.join _ _ _ fun sg hsg => Reads.element (lexes_startTag (fun _ => rfl)
        (hs sg hsg).1) (Reads.join _ _ _ fun a ha => ?_) (fun _ => rfl)
      exact Reads.emptyTag (lexes_signalArg a ((hs sg hsg).2 a ha))
    · exact Reads.join _ _ _ fun p hp' => Reads.emptyTag (lexes_property p (hp p hp'))
  | .node name, hn => Reads.startStop (lexes_startTag (fun _ => rfl) hn) (fun _ => rfl)

end IntrospectItem

theorem buildFrom_root {es : List XmlEvent} {ts : List XmlTree} (ha : Adds es ts) (name : String)
    (attrs : List (String × String)) :
    buildFrom ⟨[], none⟩ (.start name attrs :: es ++ [.stop name]) =
      some ⟨[], some (.element name attrs ts)⟩ := by
  have hstart : buildFrom ⟨[], none⟩ (.start name attrs :: es ++ [.stop name]) =
      buildFrom ⟨[⟨name, attrs, []⟩], none⟩ (es ++ [.stop name]) := rfl
  rw [hstart, buildFrom_append, ha, Option.some_bind]
  simp [buildFrom, Builder.step, Builder.add]

namespace Server
variable {V : Type}

/-- The element the document for `path` stands for: a `<node>` holding the pieces' elements. -/
def introspectTree (sigOf : V → String) (s : Server V) (path : String) : XmlTree :=
  .element "node" [] ((s.introspectItems sigOf path).map IntrospectItem.tree)

set_option maxRecDepth 4000 in
theorem parseXml_getXmlForPath_eq (sigOf : V → String) (s : Server V) (path : String)
    (h : ∀ it ∈ s.introspectItems sigOf path, it.AttrsSafe) :
    parseXml (s.getXmlForPath sigOf path) = some (s.introspectTree sigOf path) := by
  obtain ⟨es, hl, ha⟩ := Reads.join _ IntrospectItem.render IntrospectItem.tree
    fun it hit => IntrospectItem.reads_render it (h it hit)
  have hh : Lexer.read ⟨.text, []⟩ ("<!DOCTYPE node PUBLIC " ++
      "\"-//freedesktop//DTD D-BUS Object Introspection 1.0//EN\" " ++
      "\"http://www.freedesktop.org/standards/dbus/1.0/" ++ "introspect.dtd\">\n<node>") =
        ⟨.text, [.start "node" [], .decl]⟩ := by decide
  have hdoc : Lexer.read ⟨.text, []⟩ (s.getXmlForPath sigOf path) =
      ⟨.text, XmlEvent.stop "node" :: (es.reverse ++ [.start "node" [], .decl])⟩ := by
    rw [getXmlForPath, Lexer.read_append, Lexer.read_append, hh, hl]
    rfl
  refine parseXml_of_read (hdoc.trans ?_) (buildFrom_root ha "node" [])
  simp

/-- What the document needs of a server state to read back as written: every registered object
path is ASCII, so that `subnode` cuts it where the C++ cuts its bytes, and every path and every
name and signature of an `<interface>` block is `AttrSafe`. The names a `Set` call stores come in
through the property tables, so a state reached by such calls is asked this too. -/
def XmlSafe (sigOf : V → String) (s : Server V) : Prop :=
  ∀ o ∈ s.objects, (∀ c ∈ (s.object o).objectName.data, c.toNat < 128 ∧ isAttrChar c = true) ∧
    ∀ e ∈ (s.object o).interfaces.entries, (s.interfaceItem sigOf e).AttrsSafe

instance (sigOf : V → String) (s : Server V) : Decidable (s.XmlSafe sigOf) :=
  inferInstanceAs (Decidable (∀ o ∈ s.objects, _))

theorem attrSafe_subnode {objectName : String} (h : AttrSafe objectName) (newpath : String) :
    AttrSafe (subnode objectName newpath) := by
  rw [subnode_eq]
  exact fun c hc => h c (List.mem_of_mem_drop ((List.takeWhile_sublist _).subset hc))

theorem attrsSafe_of_mem_xmlItems (sigOf : V → String) (s : Server V) (newpath : String)
    (seen : List String) (l : List Nat)
    (h : ∀ o ∈ l, AttrSafe (s.object o).objectName ∧
      ∀ e ∈ (s.object o).interfaces.entries, (s.interfaceItem sigOf e).AttrsSafe) :
    ∀ it ∈ s.xmlItems sigOf newpath seen l, it.AttrsSafe := by
  induction l generalizing seen with
  | nil => simp [xmlItems]
  | cons o rest ih =>
    have ih' := fun seen => ih seen fun o' ho' => h o' (List.mem_cons_of_mem _ ho')
    obtain ⟨hn, he⟩ := h o (List.mem_cons_self _ _)
    intro it hit
    simp only [xmlItems] at hit
    split_ifs at hit
    · simp only [List.mem_cons, List.mem_append, List.mem_map] at hit
      rcases hit with (rfl | rfl | ⟨e, he', rfl⟩) | hit
      exacts [trivial, trivial, he e he', ih' _ it hit]
    · exact ih' _ it hit
    · rcases List.mem_cons.1 hit with rfl | hit
      exacts [attrSafe_subnode hn newpath, ih' _ it hit]
    · exact ih' _ it hit

namespace XmlSafe
variable {sigOf : V → String} {s : Server V}

theorem attrsSafe (h : s.XmlSafe sigOf) (path : String) :
    ∀ it ∈ s.introspectItems sigOf path, it.AttrsSafe :=
  attrsSafe_of_mem_xmlItems sigOf s _ [] s.objects fun o ho =>
    ⟨fun c hc => ((h o ho).1 c hc).2, (h o ho).2⟩

theorem subnode_bytes (h : s.XmlSafe sigOf) {o : Nat} (ho : o ∈ s.objects) {newpath : String}
    (hp : newpath.data.isPrefixOf (s.object o).objectName.data) :
    utf8 (subnode (s.object o).objectName newpath) = subnodeBytes (s.object o).objectName newpath :=
  utf8_subnode (fun c hc => ((h o ho).1 c hc).1) hp

end XmlSafe

/-- For every server state whose object paths are ASCII and whose paths, names and signatures,
property names stored by `Set` included, hold no XML-special character (`XmlSafe`), the document
`get_xml_for_path` returns for any path is well-formed XML of the introspection format (the
declaration, then one `<node>` root; tags nested and closed; no repeated attribute; no value that
normalisation would rewrite), and it reads back as the `<node>` element holding, in order, the
element of each piece `introspectItems` lists. -/
theorem parseXml_getXmlForPath (sigOf : V → String) (s : Server V) (path : String)
    (h : s.XmlSafe sigOf) :
    parseXml (s.getXmlForPath sigOf path) = some (s.introspectTree sigOf path) :=
  parseXml_getXmlForPath_eq sigOf s path (h.attrsSafe path)

/-- `/a` with `x = 5` on an interface `I`, and a child `/a/b`, introspected at `/a`. -/
theorem parseXml_getXmlForPath_child :
    let s : Server Nat := ((((init.addObject "/a").1.addInterface 0 "I").1.setProperty 1 "x" 5
      .valueChangeOnly).addObject "/a/b").1
    s.XmlSafe (fun _ => "i") ∧
      parseXml (s.getXmlForPath (fun _ => "i") "/a") =
        some (s.introspectTree (fun _ => "i") "/a") :=
  ⟨by decide, parseXml_getXmlForPath _ _ _ (by decide)⟩

end Server

end DbusProperties
