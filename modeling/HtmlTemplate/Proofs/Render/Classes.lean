import HtmlTemplate.Proofs.Grammar.Occurrences
import HtmlTemplate.Proofs.Render
import HtmlTemplate.Proofs.Text.Words

/-!
# The classes of an element

Classes come to an element from the name of its statement and from any number of attributes, and
the element has one attribute for all of them. The words of that attribute are the classes of the
name and the words of the attributes, in their order (`MergesClasses`). An element for which there
are no such words does not have the attribute.

How classes are joined does not show in the words: blanks around a text belong to no word, and a
blank between two texts keeps their words apart.
-/

set_option autoImplicit false

namespace HtmlTemplate

open Html Grammar

/-- The text that a value contributes to the classes, if it contributes at all. -/
def Value.contribution : Value → Option String
  | .null | .bool false => none
  | value => some value.text

/-- The texts that bound attributes contribute to the classes. -/
def contributions (bound : List (Attribute × Value)) : List String :=
  bound.filterMap fun p => if p.1.isClass then p.2.contribution else none

/-- The entries have the given classes, and the words of the given texts behind them, under one key
that is that of the classes in any case of ASCII letters. -/
structure MergesClasses (entries : Entries String) (classes texts : List String) : Prop where
  once : ((Entries.keys entries).filter fun key =>
    Text.sameIgnoringAsciiCase key "class").length ≤ 1
  spelled : ∀ key ∈ Entries.keys entries, Text.sameIgnoringAsciiCase key "class" = true →
    key = "class"
  absent : "class" ∉ Entries.keys entries ↔
    ∀ text ∈ classes ++ texts, ∀ c ∈ text.toList, Text.isWhiteSpace c = true
  words : ∀ value, ("class", value) ∈ entries →
    Text.words value = classes ++ texts.flatMap Text.words

/-! ## The words of the classes -/

theorem words_classText (value : Value) :
    (Attribute.classText value).toList.flatMap Text.words =
      value.contribution.toList.flatMap Text.words := by
  have kept : ∀ text : String,
      (if (Text.trim text).isEmpty then none else some (Text.trim text)).toList.flatMap Text.words =
        Text.words text := by
    intro text
    split
    · next blank => simp [Text.isEmpty_trim_iff.mp blank]
    · simp [Text.words_trim]
  cases value with
  | null => rfl
  | bool b =>
    cases b with
    | false => rfl
    | true => simpa [Attribute.classText, Value.contribution] using kept _
  | _ => simpa [Attribute.classText, Value.contribution] using kept _

theorem words_boundClasses (bound : List (Attribute × Value)) :
    (boundClasses bound).flatMap Text.words = (contributions bound).flatMap Text.words := by
  induction bound with
  | nil => rfl
  | cons p bound ih =>
    have first := words_classText p.2
    rw [boundClasses, contributions, List.filterMap_cons, List.filterMap_cons]
    rw [boundClasses, contributions] at ih
    cases p.1.isClass with
    | false => simpa using ih
    | true =>
      cases classes : Attribute.classText p.2 <;> cases texts : p.2.contribution <;>
        simp_all

/-- Classes are not blank, so without words there are none. -/
theorem boundClasses_eq_nil_iff {bound : List (Attribute × Value)} :
    boundClasses bound = [] ↔ (boundClasses bound).flatMap Text.words = [] := by
  constructor
  · intro none
    rw [none, List.flatMap_nil]
  · intro wordless
    refine List.eq_nil_iff_forall_not_mem.mpr fun classes member => ?_
    have blank := List.flatMap_eq_nil_iff.mp wordless classes member
    obtain ⟨text, rfl, nonempty⟩ := exists_trim_of_mem_boundClasses member
    rw [Text.words_trim, ← Text.isEmpty_trim_iff, nonempty] at blank
    cases blank

/-! ## Elements with bound attributes -/

/-- Only the attribute of the classes has a key that is theirs in some case. -/
theorem eq_class_of_boundText {bound : List (Attribute × Value)} {key : String}
    (isClass : Text.sameIgnoringAsciiCase key "class" = true)
    (some : boundText bound key ≠ none) : key = "class" := by
  rcases class_or_exists_of_boundText some with same | ⟨p, -, plain, rfl⟩
  · exact same
  · rw [Attribute.isClass, isClass] at plain
    cases plain

/-- An element that has bound attributes has the words that they contribute. Only what stands under
the key of the classes matters. -/
theorem mergesClasses_of_boundText {entries : Entries String} {bound : List (Attribute × Value)}
    {classes texts : List String} (once : (Entries.keys entries).Nodup)
    (found : ∀ key, Text.sameIgnoringAsciiCase key "class" = true →
      Entries.find? entries key = boundText bound key)
    (own : classes.flatMap Text.words = classes)
    (same : (contributions bound).flatMap Text.words = (classes ++ texts).flatMap Text.words) :
    MergesClasses entries classes texts := by
  have spelled : ∀ key ∈ Entries.keys entries, Text.sameIgnoringAsciiCase key "class" = true →
      key = "class" := fun key member isClass =>
    eq_class_of_boundText isClass fun none =>
      Entries.find?_eq_none_iff.mp ((found key isClass).trans none) member
  have class_eq := found "class" (by decide)
  rw [boundText, if_pos rfl] at class_eq
  have words := (words_boundClasses bound).trans same
  refine ⟨?_, spelled, ?_, ?_⟩
  · have each : ∀ key ∈ (Entries.keys entries).filter fun key =>
        Text.sameIgnoringAsciiCase key "class", key = "class" := fun key member =>
      spelled key (List.mem_filter.mp member).1 (List.mem_filter.mp member).2
    have nodup := once.filter fun key => Text.sameIgnoringAsciiCase key "class"
    rw [List.eq_replicate_of_mem each] at nodup
    exact List.nodup_replicate.mp nodup
  · have absent : "class" ∉ Entries.keys entries ↔ boundClasses bound = [] := by
      rw [← Entries.find?_eq_none_iff, class_eq]
      split
      · next none => simp [none]
      · next some => simp [some]
    rw [absent, boundClasses_eq_nil_iff, words, List.flatMap_eq_nil_iff]
    simp only [Text.words_eq_nil_iff]
  · intro value member
    have value_eq : Entries.find? entries "class" = some value := Entries.find?_of_mem once member
    rw [class_eq] at value_eq
    split at value_eq
    · cases value_eq
    · rw [← Option.some.inj value_eq, Text.words_intercalate, words, List.flatMap_append, own]

/-! ## The classes of a name -/

namespace Shorthand

theorem classes_of_expand {text : String} {s : Shorthand} (expanded : expand text = .ok s) :
    s.classes = partsAfter '.' (split text.toList).2 := by
  simp only [expand] at expanded
  split at expanded
  · cases expanded
  · rw [← Except.ok.inj expanded]
  · split at expanded
    · cases expanded
    · rw [← Except.ok.inj expanded]

/-- A class of an identifier is a word. -/
theorem words_of_mem_classes {text : String} {s : Shorthand} (identifier : IsIdentifier text)
    (expanded : expand text = .ok s) {name : String} (member : name ∈ s.classes) :
    Text.words name = [name] := by
  rw [classes_of_expand expanded] at member
  refine Text.words_of_plain (ne_empty_of_mem_partsAfter member) fun c inside => ?_
  cases white : Text.isWhiteSpace c with
  | false => rfl
  | true =>
    have tail := identifier.isNameTail c (mem_partsAfter member c inside).1
    rw [Text.isNameTail_of_isWhiteSpace white] at tail
    cases tail

theorem flatMap_words_classes {text : String} {s : Shorthand} (identifier : IsIdentifier text)
    (expanded : expand text = .ok s) : s.classes.flatMap Text.words = s.classes := by
  rw [List.flatMap_congr fun name => words_of_mem_classes identifier expanded,
    List.flatMap_singleton']

/-- The attributes of a name are literals, so they are bound to what they say. -/
def bound (s : Shorthand) : List (Attribute × Value) :=
  s.attributes.map fun a => (a, .string a.text)

theorem bound_bound (s : Shorthand) (binders : Binders) (model : Value) :
    binders.Bound model s.attributes s.bound where
  attributes_eq := by
    rw [bound, List.map_map]
    exact List.map_id _
  values := by
    intro p member
    obtain ⟨a, listed, rfl⟩ := List.mem_map.mp member
    have quoted : a.kind = .quoted := kind_of_mem_attributes listed
    simp only [quoted]
    rfl

theorem words_contributions_bound (s : Shorthand) :
    (contributions s.bound).flatMap Text.words = s.classes.flatMap Text.words := by
  have id_other : Text.sameIgnoringAsciiCase "id" "class" = false := by decide
  have class_same : Text.sameIgnoringAsciiCase "class" "class" = true := by decide
  obtain ⟨tag, id, classes⟩ := s
  cases id <;> cases classes <;>
    simp [contributions, bound, attributes, Attribute.isClass, id_other, class_same,
      Value.contribution, Value.text, Text.words_intercalate]

end Shorthand

/-! ## The classes of a statement -/

/-- The name of the element that a statement is rendered to, in the ways that give an element. -/
def Renderer.elementName? : Renderer → Node → Option String
  | .element, node => some (Text.lowercase node.name)
  | .input, _ => some "input"
  | .doctype, _ | .inclusion, _ => none

/-- The names of statements in a derivation of a template are identifiers. -/
theorem isIdentifier_of_mem_occurrences {source : String} {ls : List Lexeme} {cs : Chains}
    (lexed : Lexed 0 source.toList ls) (derives : cs.Derives (significant ls)) {o : Occurrence}
    (member : o ∈ cs.occurrences 0) : IsIdentifier o.statement.name.text := by
  have spelled : Spelled cs.tokens := derives.yield ▸ lexed.spelled_significant
  have first : Token.identifier o.statement.name.text ∈ o.statement.tokens := by
    cases o.statement
    exact List.mem_cons_self
  have inside := (cs.isInfix_of_mem_occurrences member).subset first
  exact Token.spelled_identifier_iff.mp (spelled _ inside)

variable {env : Environment} {inclusion : Inclusion} {model : Value} {s : Statement}
  {bound : List (Attribute × Value)}

/-- What an element has when it has been given the attributes of a statement. -/
theorem exists_carries_addAttributes {binders : Binders}
    (binds : binders.Bound model s.written bound) (name : String) :
    ∃ tag, binders.addAttributes model (.new name) s.node.attributes = .ok tag ∧
      Carries tag.attributes (s.name.shorthand.bound ++ bound) := by
  have binds' : binders.Bound model s.node.attributes (s.name.shorthand.bound ++ bound) := by
    rw [s.node_attributes]
    exact (s.name.shorthand.bound_bound binders model).append binds
  obtain ⟨tag, added⟩ := exists_addAttributes_of_bound binds' (.new name)
  obtain ⟨bound', binds'', carries, -, -⟩ :=
    carries_addAttributes binders model s.node.attributes carries_nil added
  rw [binds''.unique binds'] at carries
  exact ⟨tag, added, carries⟩

/-- The words of an element of which the classes are those of a statement. -/
theorem mergesClasses_of_statement {entries : Entries String}
    (identifier : IsIdentifier s.name.text) (once : (Entries.keys entries).Nodup)
    (found : ∀ key, Text.sameIgnoringAsciiCase key "class" = true →
      Entries.find? entries key = boundText (s.name.shorthand.bound ++ bound) key) :
    MergesClasses entries s.name.shorthand.classes (contributions bound) := by
  refine mergesClasses_of_boundText once found
    (Shorthand.flatMap_words_classes identifier s.name.expands) ?_
  rw [contributions, List.filterMap_append, List.flatMap_append, List.flatMap_append]
  exact congrArg (· ++ _) s.name.shorthand.words_contributions_bound

theorem name_of_addAttributes {binders : Binders} {attributes : List Attribute} {name : String}
    {tag : Tag} (added : binders.addAttributes model (.new name) attributes = .ok tag) :
    tag.name = name := by
  obtain ⟨-, -, -, sameName, -⟩ :=
    carries_addAttributes binders model attributes carries_nil added
  exact sameName

/-- The text is an element that has been given attributes, and possibly a value behind them. -/
def IsElementWith (binders : Binders) (model : Value) (name : String)
    (attributes : List Attribute) (html : String) : Prop :=
  ∃ given tag : Tag, binders.addAttributes model (.new name) attributes = .ok given ∧
    (tag.attributes = given.attributes ∨
      ∃ value, tag.attributes = given.attributes.insert "value" value) ∧
    tag.name = name ∧ (html = tag.render ∨ html = tag.renderSelfClosing)

theorem isElementWith_of_renderInput {node : Node} {html : String}
    (rendered : env.renderInput model node = .ok html) :
    IsElementWith env.binders model "input" node.attributes html := by
  obtain ⟨_, named, rendered⟩ := Except.bind_eq_ok_iff.mp rendered
  obtain ⟨_, childless, rendered⟩ := Except.bind_eq_ok_iff.mp rendered
  obtain ⟨tag, added, rendered⟩ := Except.bind_eq_ok_iff.mp rendered
  have sameName := name_of_addAttributes added
  split at rendered
  · next value single =>
    obtain rfl := Except.ok.inj rendered
    exact ⟨tag, tag.setAttribute "value" value.text, added, Or.inr ⟨value.text, rfl⟩, sameName,
      Or.inr rfl⟩
  · obtain rfl := Except.ok.inj rendered
    exact ⟨tag, tag, added, Or.inl rfl, sameName, Or.inr rfl⟩

theorem isElementWith_of_renderElement {node : Node} {html : String}
    (rendered : env.renderAs inclusion model .element node = .ok html) :
    IsElementWith env.binders model (Text.lowercase node.name) node.attributes html := by
  obtain ⟨kind, parameters, attributes, children⟩ := node
  rw [Environment.renderAs] at rendered
  split at rendered
  · obtain ⟨_, childless, rendered⟩ := Except.bind_eq_ok_iff.mp rendered
    obtain ⟨tag, added, written⟩ := Except.bind_eq_ok_iff.mp rendered
    obtain rfl := Except.ok.inj written
    exact ⟨tag, tag, added, Or.inl rfl, name_of_addAttributes added, Or.inr rfl⟩
  · obtain ⟨tag, added, rendered⟩ := Except.bind_eq_ok_iff.mp rendered
    obtain ⟨tag', added', rendered⟩ := Except.bind_eq_ok_iff.mp rendered
    obtain ⟨inner, inside, written⟩ := Except.bind_eq_ok_iff.mp rendered
    obtain rfl := Except.ok.inj written
    obtain ⟨texts, -, -, appended⟩ := addParameters_eq env model parameters added'
    have sameAttributes : tag'.attributes = tag.attributes := by
      rw [appended]
      rfl
    have sameName : tag'.name = tag.name := by
      rw [appended]
      rfl
    exact ⟨tag, tag'.appendHtml inner, added, Or.inl sameAttributes,
      sameName.trans (name_of_addAttributes added), Or.inl rfl⟩

/-- A page that is an element is one with the attributes of its statement. -/
theorem isElementWith_of_renderAs {renderer : Renderer} {node : Node} {name html : String}
    (element : renderer.elementName? node = some name)
    (rendered : env.renderAs inclusion model renderer node = .ok html) :
    IsElementWith env.binders model name node.attributes html := by
  cases renderer with
  | doctype => cases element
  | inclusion => cases element
  | input =>
    obtain rfl := Option.some.inj element
    obtain ⟨kind, parameters, attributes, children⟩ := node
    rw [Environment.renderAs] at rendered
    exact isElementWith_of_renderInput rendered
  | element =>
    obtain rfl := Option.some.inj element
    exact isElementWith_of_renderElement rendered

/-- An element has the classes of the name of its statement and behind them the words that the
attributes of the statement contribute, each as often as it is written and in this order. -/
theorem mergesClasses_of_parse {source : String} {d : Document}
    (parsed : Document.parse source = .ok d) :
    ∃ (ls : List Lexeme) (cs : Chains), tokenize source = .ok ls ∧
      cs.Derives (significant ls) ∧ cs.document = d ∧
      (cs.occurrences 0).map (·.statement.node) = Node.preorderAll d.roots ∧
      ∀ o ∈ cs.occurrences 0, ∀ (env : Environment) (model : Value)
        (bound : List (Attribute × Value)), env.binders.Bound model o.statement.written bound →
        (∀ name, ∃ tag,
          env.binders.addAttributes model (.new name) o.statement.node.attributes = .ok tag ∧
          MergesClasses tag.attributes o.statement.name.shorthand.classes
            (contributions bound)) ∧
        ∀ (inclusion : Inclusion) (renderer : Renderer) (name html : String),
          renderer.elementName? o.statement.node = some name →
          env.renderAs inclusion model renderer o.statement.node = .ok html →
          ∃ tag : Tag, tag.name = name ∧ (html = tag.render ∨ html = tag.renderSelfClosing) ∧
            MergesClasses tag.attributes o.statement.name.shorthand.classes
              (contributions bound) := by
  obtain ⟨ls, cs, lexed, derives, rfl⟩ := parse_eq_ok_iff_derives.mp parsed
  refine ⟨ls, cs, tokenize_eq_ok_iff_lexed.mpr lexed, derives, rfl, cs.map_node_occurrences 0, ?_⟩
  intro o member env model bound binds
  have identifier := isIdentifier_of_mem_occurrences lexed derives member
  constructor
  · intro name
    obtain ⟨tag, added, carries⟩ := exists_carries_addAttributes binds name
    exact ⟨tag, added, mergesClasses_of_statement identifier carries.once fun key _ =>
      carries.texts key⟩
  · intro inclusion renderer name html element rendered
    obtain ⟨given, tag, added, attributes, named, written⟩ :=
      isElementWith_of_renderAs element rendered
    obtain ⟨given', added', carries⟩ := exists_carries_addAttributes binds name
    obtain rfl := Except.ok.inj (added'.symm.trans added)
    refine ⟨tag, named, written, ?_⟩
    rcases attributes with same | ⟨value, more⟩
    · rw [same]
      exact mergesClasses_of_statement identifier carries.once fun key _ => carries.texts key
    · rw [more]
      refine mergesClasses_of_statement identifier (Entries.nodup_keys_alter carries.once) ?_
      intro key isClass
      rw [Entries.find?_insert, if_neg, carries.texts]
      rintro rfl
      exact absurd isClass (by decide)

/-- A paragraph with classes in its name, in quotes and from a list, and none from a false value. -/
theorem mergesClasses_of_parse_paragraph :
    let source := "p.a#x.b[Class='  c d', CLASS=items, class=false]"
    let statement : Statement :=
      .mk ⟨"p.a#x.b", ⟨"p", some "x", ["a", "b"]⟩, rfl⟩ none
        (some [⟨"Class", .quoted "  c d"⟩, ⟨"CLASS", .identifier "items"⟩,
          ⟨"class", .identifier "false"⟩]) .none
    let env : Environment := ⟨.ofSteps [.elements ["P"]], .standard, .ofTexts []⟩
    let model : Value := .map [("items", .list [.string "e", .string "f"])]
    let html := "<p id=\"x\" class=\"a b c d e f\"></p>"
    Document.parse source = .ok ⟨[statement.node]⟩ ∧
      env.render model [statement.node] = .ok html ∧
      ∃ tag : Tag, tag.name = "p" ∧ (html = tag.render ∨ html = tag.renderSelfClosing) ∧
        MergesClasses tag.attributes ["a", "b"] ["  c d", "e f"] := by
  intro source statement env model html
  have tokens : (tokenize source).toOption.map significant = some statement.tokens := by
    decide +kernel
  obtain ⟨ls, cut, visible⟩ := Option.map_eq_some_iff.mp tokens
  have cut' := Except.toOption_eq_some_iff.mp cut
  have derives : (Chains.cons (.one statement) .nil).Derives (significant ls) := by
    rw [visible]
    refine ⟨by simp [Chains.tokens, Chain.tokens], ?_, ?_⟩
    · exact List.forall_mem_singleton.mpr fun followed => nomatch followed
    · exact List.forall_mem_singleton.mpr fun filled => (filled rfl).elim
  have parsed : Document.parse source = .ok ⟨[statement.node]⟩ :=
    parse_eq_ok_iff_derives.mpr ⟨ls, _, tokenize_eq_ok_iff_lexed.mp cut', derives, rfl⟩
  have page : env.render model [statement.node] = .ok html :=
    Except.toOption_eq_some_iff.mp (by decide +kernel)
  have rendered : env.renderAs (env.includeView maxInclusion) model .element statement.node =
      .ok html := Except.toOption_eq_some_iff.mp (by decide +kernel)
  refine ⟨parsed, page, ?_⟩
  obtain ⟨ls', cs, again, derives', -, -, merges⟩ := mergesClasses_of_parse parsed
  obtain rfl := Except.ok.inj (again.symm.trans cut')
  obtain rfl := derives'.unique derives
  have bound : Binders.standard.Bound model statement.written
      [(⟨"Class", .quoted, "  c d"⟩, .string "  c d"),
        (⟨"CLASS", .keyword, "items"⟩, .list [.string "e", .string "f"]),
        (⟨"class", .keyword, "false"⟩, .bool false)] :=
    ⟨rfl, List.forall_mem_cons.mpr ⟨rfl, List.forall_mem_cons.mpr ⟨rfl,
      List.forall_mem_singleton.mpr rfl⟩⟩⟩
  have both := merges ⟨0, false, statement⟩ List.mem_cons_self env model _ bound
  exact both.2 _ .element "p" html (by decide +kernel) rendered

end HtmlTemplate
