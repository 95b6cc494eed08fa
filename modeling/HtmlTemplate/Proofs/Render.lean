import HtmlTemplate.Proofs.Document
import HtmlTemplate.Proofs.Html.Page
import HtmlTemplate.Proofs.Render.Attributes
import HtmlTemplate.Render

/-!
# What is rendered

A page is the forest of pieces that follows the statements of a template, with the statements of a
view in place of every statement that includes it (`Environment.Follows`). Names and keys come from
templates alone and cannot end where they stand; every other text is escaped and is read back as the
text that it was made from. So nothing in a model or a literal breaks out of its place.

The induction goes down the tree of a template, and for views down the number of views that may
still be opened.
-/

set_option autoImplicit false

namespace HtmlTemplate

open Html

/-- The attributes in a tag are read as the texts that are expected under their keys. -/
structure Writes (written : Entries String) (expected : String → Option String) : Prop where
  once : (Entries.keys written).Nodup
  reads : ∀ key, (Entries.find? written key).map decode = expected key

/-- The text under a key of an input element, which takes its value from its only parameter. -/
def inputText (parameters : List Parameter) (bound : List (Attribute × Value)) (key : String) :
    Option String :=
  match parameters with
  | [value] => if key = "value" then some value.text else boundText bound key
  | _ => boundText bound key

namespace Environment

/-- Texts in an element are read as the texts of what its parameters are bound to. -/
def WritesTexts (env : Environment) (model : Value) : List Parameter → List String → Prop :=
  List.Forall₂ fun p written =>
    ∃ value, env.binders.bind model p.kind p.text = .ok value ∧ decode written = value.text

/-- The view that parameters name, and what it is rendered against: the model, or the part of it
that a second parameter is bound to. -/
inductive Includes (env : Environment) (model : Value) : List Parameter → Document → Value → Prop
  | whole {view : Parameter} {source : String} {document : Document}
      (found : env.views.find? view.text = some (.ok source))
      (parsed : Document.parse source = .ok document) :
      Includes env model [view] document model
  | part {view chosen : Parameter} {rest : List Parameter} {source : String} {document : Document}
      {value : Value} (found : env.views.find? view.text = some (.ok source))
      (parsed : Document.parse source = .ok document)
      (resolved : env.binders.bind model chosen.kind chosen.text = .ok value) :
      Includes env model (view :: chosen :: rest) document value

/-- The pieces are those of the statements, in their order. -/
inductive Follows (env : Environment) : Value → List Node → List Item → Prop
  | nil (model : Value) : Follows env model [] []
  | doctype {model : Value} {node : Node} {rest : List Node} {items : List Item}
      (renderer : env.registry.find? node.name = some .doctype)
      (named : node.isNamed "doctype" = true) (more : Follows env model rest items) :
      Follows env model (node :: rest)
        (.doctype ((node.parameters.head?.map (·.text)).getD "html") :: items)
  | input {model : Value} {node : Node} {rest : List Node} {items : List Item}
      {bound : List (Attribute × Value)} {written : Entries String}
      (renderer : env.registry.find? node.name = some .input)
      (named : node.isNamed "input" = true) (childless : node.children = [])
      (binds : env.binders.Bound model node.attributes bound)
      (writes : Writes written (inputText node.parameters bound))
      (more : Follows env model rest items) :
      Follows env model (node :: rest) (.void "input" written :: items)
  | inclusion {model part : Value} {node : Node} {rest : List Node} {document : Document}
      {inner items : List Item} (renderer : env.registry.find? node.name = some .inclusion)
      (named : node.isNamed "partial" = true)
      (includes : env.Includes model node.parameters document part)
      (inside : Follows env part document.roots inner) (more : Follows env model rest items) :
      Follows env model (node :: rest) (inner ++ items)
  | void {model : Value} {node : Node} {rest : List Node} {items : List Item}
      {bound : List (Attribute × Value)} {written : Entries String}
      (renderer : env.registry.find? node.name = some .element)
      (empty : isVoid (Text.lowercase node.name) = true) (childless : node.children = [])
      (binds : env.binders.Bound model node.attributes bound)
      (writes : Writes written (boundText bound)) (more : Follows env model rest items) :
      Follows env model (node :: rest) (.void (Text.lowercase node.name) written :: items)
  | element {model : Value} {node : Node} {rest : List Node} {inner items : List Item}
      {bound : List (Attribute × Value)} {written : Entries String} {texts : List String}
      (renderer : env.registry.find? node.name = some .element)
      (filled : isVoid (Text.lowercase node.name) = false)
      (binds : env.binders.Bound model node.attributes bound)
      (writes : Writes written (boundText bound))
      (reads : env.WritesTexts model node.parameters texts)
      (inside : Follows env model node.children inner) (more : Follows env model rest items) :
      Follows env model (node :: rest)
        (.element (Text.lowercase node.name) written (texts.map Item.text ++ inner) :: items)

end Environment

/-! ## Names and keys -/

theorem IsIdentifier.isMarkupName {text : String} (identifier : IsIdentifier text) :
    IsMarkupName text := fun c member => .of_isNameTail (identifier.isNameTail c member)

theorem IsTagName.isMarkupName_lowercase {text : String} (name : IsTagName text) :
    IsMarkupName (Text.lowercase text) :=
  Text.isUnmarked_lowercase name.isIdentifier.isMarkupName

/-- The keys of an element can stand in its tag if those of its statement are identifiers. -/
theorem isMarkupName_of_carries {binders : Binders} {model : Value} {attributes : List Attribute}
    {bound : List (Attribute × Value)} {entries : Entries String}
    (wellFormed : ∀ a ∈ attributes, a.WellFormed) (binds : binders.Bound model attributes bound)
    (carries : Carries entries bound) : ∀ key ∈ Entries.keys entries, IsMarkupName key := by
  intro key member
  rcases carries.mem_keys member with rfl | ⟨p, inside, rfl⟩
  · have identifier : IsIdentifier "class" := by decide +kernel
    exact identifier.isMarkupName
  · have listed : p.1 ∈ attributes := binds.attributes_eq ▸ List.mem_map_of_mem inside
    exact (wellFormed p.1 listed).key.isMarkupName

/-! ## Attributes and texts of an element -/

theorem writes_escapedAttributes {entries : Entries String} {expected : String → Option String}
    (once : (Entries.keys entries).Nodup)
    (texts : ∀ key, Entries.find? entries key = expected key) :
    Writes (escapedAttributes entries) expected where
  once := by
    have same : Entries.keys (escapedAttributes entries) = Entries.keys entries := by
      simp [Entries.keys, escapedAttributes]
    rw [same]
    exact once
  reads := fun key => (find?_escapedAttributes entries key).trans (texts key)

/-- An element that has been given the attributes of a statement. -/
theorem addAttributes_new {binders : Binders} {model : Value} {name : String}
    {attributes : List Attribute} {tag : Tag} (wellFormed : ∀ a ∈ attributes, a.WellFormed)
    (added : binders.addAttributes model (.new name) attributes = .ok tag) :
    tag.name = name ∧ tag.content = "" ∧
      (∀ key ∈ Entries.keys tag.attributes, IsMarkupName key) ∧
      ∃ bound, binders.Bound model attributes bound ∧ Carries tag.attributes bound := by
  obtain ⟨bound, binds, carries, sameName, empty⟩ :=
    carries_addAttributes binders model attributes carries_nil added
  exact ⟨sameName, empty, isMarkupName_of_carries wellFormed binds carries, bound, binds, carries⟩

/-- The only parameter of an input element becomes its value, whatever its attributes say. -/
theorem writes_inputValue {entries : Entries String} {bound : List (Attribute × Value)}
    (carries : Carries entries bound) (value : Parameter) :
    Writes (escapedAttributes (entries.insert "value" value.text)) (inputText [value] bound) := by
  have once : (Entries.keys (entries.insert "value" value.text)).Nodup :=
    Entries.nodup_keys_alter carries.once
  apply writes_escapedAttributes once
  intro key
  rw [Entries.find?_insert, carries.texts, inputText]

theorem inputText_of_several {parameters : List Parameter} {bound : List (Attribute × Value)}
    (several : ∀ value, parameters = [value] → False) :
    inputText parameters bound = boundText bound := by
  rcases parameters with _ | ⟨first, _ | ⟨second, rest⟩⟩
  · rfl
  · exact (several first rfl).elim
  · rfl

/-- Texts are appended to an element escaped, in the order of its parameters. -/
theorem addParameters_eq (env : Environment) (model : Value) :
    ∀ (parameters : List Parameter) {tag tag' : Tag},
      env.binders.addParameters model tag parameters = .ok tag' →
      ∃ texts, env.WritesTexts model parameters texts ∧ Item.AllSafe (texts.map Item.text) ∧
        tag' = tag.appendHtml (Item.htmlAll (texts.map Item.text))
  | [], tag, tag', added => by
    obtain rfl := Except.ok.inj added
    exact ⟨[], .nil, trivial, by simp [Tag.appendHtml, Item.htmlAll]⟩
  | p :: parameters, tag, tag', added => by
    rw [Binders.addParameters, List.foldlM_cons, Except.bind_eq_ok_iff] at added
    obtain ⟨next, first, added'⟩ := added
    obtain ⟨value, resolved, put⟩ := Except.bind_eq_ok_iff.mp first
    obtain rfl := Except.ok.inj put
    obtain ⟨texts, reads, safe, rfl⟩ := addParameters_eq env model parameters added'
    refine ⟨escape value.text :: texts, ?_, ⟨isEscaped_escape _, safe⟩, ?_⟩
    · exact .cons ⟨value, resolved, decode_escape _⟩ reads
    · simp [Tag.appendHtml, Tag.appendText, Item.htmlAll, Item.html, String.append_assoc]

/-! ## Statements and views -/

namespace Node

theorem expectNamed_eq_ok_iff {node : Node} {expected : String} :
    node.expectNamed expected = .ok () ↔ node.isNamed expected = true := by
  unfold expectNamed
  split <;> simp_all

theorem expectChildless_eq_ok_iff {node : Node} :
    node.expectChildless = .ok () ↔ node.children = [] := by
  unfold expectChildless
  split <;> simp_all

end Node

namespace Environment

variable {env : Environment} {inclusion : Inclusion}

/-- The text is a page of safe pieces that follow the statements. -/
def Presents (env : Environment) (model : Value) (nodes : List Node) (html : String) : Prop :=
  ∃ items, Item.htmlAll items = html ∧ Item.AllSafe items ∧ env.Follows model nodes items

/-- Including a view gives a page of safe pieces that follow the statements of the view. -/
def Faithful (env : Environment) (inclusion : Inclusion) : Prop :=
  ∀ view model html, inclusion view model = .ok html → ∃ source document,
    env.views.find? view = some (.ok source) ∧ Document.parse source = .ok document ∧
      env.Presents model document.roots html

/-- The text is a run of safe pieces that stand for one statement among others. -/
def PresentsOne (env : Environment) (model : Value) (node : Node) (html : String) : Prop :=
  ∃ items, Item.htmlAll items = html ∧ Item.AllSafe items ∧
    ∀ rest more, env.Follows model rest more → env.Follows model (node :: rest) (items ++ more)

/-- One safe piece may stand for a statement. -/
theorem presentsOne_single {model : Value} {node : Node} {item : Item} (safe : item.Safe)
    (follows : ∀ {rest more}, env.Follows model rest more →
      env.Follows model (node :: rest) (item :: more)) : env.PresentsOne model node item.html :=
  ⟨[item], by simp [Item.htmlAll], ⟨safe, trivial⟩, fun _ _ => follows⟩

theorem presentsOne_doctype {model : Value} {node : Node} {html : String}
    (renderer : env.registry.find? node.name = some .doctype)
    (rendered : renderDoctype node = .ok html) : env.PresentsOne model node html := by
  obtain ⟨_, named, written⟩ := Except.bind_eq_ok_iff.mp rendered
  obtain rfl := Except.ok.inj written
  have named' := Node.expectNamed_eq_ok_iff.mp named
  let item : Item := .doctype ((node.parameters.head?.map (·.text)).getD "html")
  have safe : item.Safe := trivial
  exact presentsOne_single safe (.doctype renderer named')

/-- An input element whose attributes have been settled. -/
theorem presentsOne_inputTag {model : Value} {node : Node} {tag : Tag}
    {bound : List (Attribute × Value)} (renderer : env.registry.find? node.name = some .input)
    (named : node.isNamed "input" = true) (childless : node.children = [])
    (binds : env.binders.Bound model node.attributes bound) (sameName : tag.name = "input")
    (names : ∀ key ∈ Entries.keys tag.attributes, IsMarkupName key)
    (writes : Writes (escapedAttributes tag.attributes) (inputText node.parameters bound)) :
    env.PresentsOne model node tag.renderSelfClosing := by
  rw [Tag.renderSelfClosing_eq, sameName]
  have identifier : IsIdentifier "input" := by decide +kernel
  apply presentsOne_single
  · exact ⟨identifier.isMarkupName, safe_escapedAttributes names⟩
  · exact .input renderer named childless binds writes

theorem presentsOne_input {model : Value} {node : Node} {html : String}
    (wellFormed : node.WellFormed) (renderer : env.registry.find? node.name = some .input)
    (rendered : env.renderInput model node = .ok html) : env.PresentsOne model node html := by
  obtain ⟨_, named, rendered⟩ := Except.bind_eq_ok_iff.mp rendered
  obtain ⟨_, childless, rendered⟩ := Except.bind_eq_ok_iff.mp rendered
  obtain ⟨tag, added, rendered⟩ := Except.bind_eq_ok_iff.mp rendered
  obtain ⟨sameName, -, names, bound, binds, carries⟩ :=
    addAttributes_new wellFormed.attributes added
  have named' := Node.expectNamed_eq_ok_iff.mp named
  have childless' := Node.expectChildless_eq_ok_iff.mp childless
  split at rendered
  · next value single =>
    obtain rfl := Except.ok.inj rendered
    have sameName' : (tag.setAttribute "value" value.text).name = "input" := sameName
    apply presentsOne_inputTag renderer named' childless' binds sameName'
    · intro key member
      rcases Entries.mem_keys_alter.mp member with rfl | member
      · have identifier : IsIdentifier "value" := by decide +kernel
        exact identifier.isMarkupName
      · exact names key member
    · rw [single]
      exact writes_inputValue carries value
  · next several =>
    obtain rfl := Except.ok.inj rendered
    apply presentsOne_inputTag renderer named' childless' binds sameName names
    rw [inputText_of_several several]
    exact writes_escapedAttributes carries.once carries.texts

theorem presentsOne_inclusion {model : Value} {node : Node} {html : String}
    (faithful : env.Faithful inclusion)
    (renderer : env.registry.find? node.name = some .inclusion)
    (rendered : env.renderInclusion inclusion model node = .ok html) :
    env.PresentsOne model node html := by
  obtain ⟨_, named, rendered⟩ := Except.bind_eq_ok_iff.mp rendered
  have named := Node.expectNamed_eq_ok_iff.mp named
  split at rendered
  · cases rendered
  · next view single =>
    obtain ⟨source, document, found, parsed, items, written, safe, inside⟩ :=
      faithful _ _ _ rendered
    refine ⟨items, written, safe, fun rest more follows => ?_⟩
    have includes : env.Includes model node.parameters document model := by
      rw [single]
      exact .whole found parsed
    exact .inclusion renderer named includes inside follows
  · next view chosen others several =>
    obtain ⟨value, resolved, rendered⟩ := Except.bind_eq_ok_iff.mp rendered
    obtain ⟨source, document, found, parsed, items, written, safe, inside⟩ :=
      faithful _ _ _ rendered
    refine ⟨items, written, safe, fun rest more follows => ?_⟩
    have includes : env.Includes model node.parameters document value := by
      rw [several]
      exact .part found parsed resolved
    exact .inclusion renderer named includes inside follows

/-- An element without content. -/
theorem presentsOne_void {model : Value} {node : Node} {tag : Tag} (wellFormed : node.WellFormed)
    (renderer : env.registry.find? node.name = some .element)
    (empty : isVoid (Text.lowercase node.name) = true) (childless : node.children = [])
    (added : env.binders.addAttributes model (.new (Text.lowercase node.name)) node.attributes =
      .ok tag) : env.PresentsOne model node tag.renderSelfClosing := by
  obtain ⟨sameName, -, names, bound, binds, carries⟩ :=
    addAttributes_new wellFormed.attributes added
  have writes := writes_escapedAttributes carries.once carries.texts
  rw [Tag.renderSelfClosing_eq, sameName]
  apply presentsOne_single
  · exact ⟨wellFormed.name.isMarkupName_lowercase, safe_escapedAttributes names⟩
  · exact .void renderer empty childless binds writes

/-- An element with texts and children between its tags. -/
theorem presentsOne_element {model : Value} {node : Node} {tag tag' : Tag} {inner : String}
    (wellFormed : node.WellFormed) (renderer : env.registry.find? node.name = some .element)
    (filled : isVoid (Text.lowercase node.name) = false)
    (added : env.binders.addAttributes model (.new (Text.lowercase node.name)) node.attributes =
      .ok tag) (added' : env.binders.addParameters model tag node.parameters = .ok tag')
    (below : env.Presents model node.children inner) :
    env.PresentsOne model node (tag'.appendHtml inner).render := by
  obtain ⟨sameName, blank, names, bound, binds, carries⟩ :=
    addAttributes_new wellFormed.attributes added
  obtain ⟨texts, reads, safeTexts, rfl⟩ := addParameters_eq env model node.parameters added'
  obtain ⟨items, rfl, safe, inside⟩ := below
  have writes := writes_escapedAttributes carries.once carries.texts
  have content : ((tag.appendHtml (Item.htmlAll (texts.map Item.text))).appendHtml
      (Item.htmlAll items)).content = Item.htmlAll (texts.map Item.text ++ items) := by
    simp [Tag.appendHtml, blank, Item.htmlAll_append]
  rw [Tag.render_eq content]
  simp only [Tag.appendHtml, sameName]
  apply presentsOne_single
  · exact ⟨wellFormed.name.isMarkupName_lowercase, safe_escapedAttributes names,
      Item.allSafe_append.mpr ⟨safeTexts, safe⟩⟩
  · exact .element renderer filled binds writes reads inside

mutual

theorem presentsOne_renderAs (faithful : env.Faithful inclusion) {model : Value} :
    ∀ (node : Node) {depth : Nat} {renderer : Renderer} {html : String},
      node.WellFormedAt depth → env.registry.find? node.name = some renderer →
      env.renderAs inclusion model renderer node = .ok html → env.PresentsOne model node html
  | ⟨name, parameters, attributes, children⟩, depth, renderer, html, wellFormed, found,
      rendered => by
    obtain ⟨⟨-, own⟩, below⟩ := Node.wellFormedAt_iff.mp wellFormed
    cases renderer with
    | doctype => exact presentsOne_doctype found rendered
    | input => exact presentsOne_input own found rendered
    | inclusion => exact presentsOne_inclusion faithful found rendered
    | element =>
      rw [renderAs] at rendered
      cases empty : isVoid (Text.lowercase name) with
      | true =>
        rw [if_pos empty] at rendered
        obtain ⟨_, childless, rendered⟩ := Except.bind_eq_ok_iff.mp rendered
        obtain ⟨tag, added, written⟩ := Except.bind_eq_ok_iff.mp rendered
        obtain rfl := Except.ok.inj written
        exact presentsOne_void own found empty (Node.expectChildless_eq_ok_iff.mp childless) added
      | false =>
        rw [if_neg (Bool.eq_false_iff.mp empty)] at rendered
        obtain ⟨tag, added, rendered⟩ := Except.bind_eq_ok_iff.mp rendered
        obtain ⟨tag', added', rendered⟩ := Except.bind_eq_ok_iff.mp rendered
        obtain ⟨inner, inside, written⟩ := Except.bind_eq_ok_iff.mp rendered
        obtain rfl := Except.ok.inj written
        exact presentsOne_element own found empty added added'
          (presents_renderAll faithful children below inside)

theorem presents_renderAll (faithful : env.Faithful inclusion) {model : Value} :
    ∀ (nodes : List Node) {depth : Nat} {html : String}, Node.AllWellFormedAt depth nodes →
      env.renderAll inclusion model nodes = .ok html → env.Presents model nodes html
  | [], depth, html, wellFormed, rendered => by
    obtain rfl := Except.ok.inj rendered
    exact ⟨[], rfl, trivial, .nil model⟩
  | node :: rest, depth, html, wellFormed, rendered => by
    obtain ⟨first, later⟩ := Node.allWellFormedAt_cons.mp wellFormed
    rw [renderAll] at rendered
    split at rendered
    · cases rendered
    · next renderer found =>
      obtain ⟨html', here, rendered⟩ := Except.bind_eq_ok_iff.mp rendered
      obtain ⟨html'', there, joined⟩ := Except.bind_eq_ok_iff.mp rendered
      obtain rfl := Except.ok.inj joined
      obtain ⟨items, rfl, safe, follows⟩ := presentsOne_renderAs faithful node first found here
      obtain ⟨more, rfl, safe', follows'⟩ := presents_renderAll faithful rest later there
      exact ⟨items ++ more, Item.htmlAll_append _ _, Item.allSafe_append.mpr ⟨safe, safe'⟩,
        follows rest more follows'⟩

end

/-- The induction is on the number of views that may still be opened. -/
theorem faithful_includeView : ∀ count : Nat, env.Faithful (env.includeView count)
  | 0 => fun _ _ _ rendered => by cases rendered
  | count + 1 => by
    intro view model html rendered
    rw [includeView] at rendered
    split at rendered
    · cases rendered
    · cases rendered
    · next source found =>
      split at rendered
      · cases rendered
      · next document parsed =>
        exact ⟨source, document, found, parsed, presents_renderAll (faithful_includeView count)
          document.roots (Document.wellFormed_of_parse parsed) rendered⟩

/-- The page of a template is the run of safe pieces that follow its statements. -/
theorem exists_follows_of_render (env : Environment) (model : Value) {source : String}
    {d : Document} {html : String} (parsed : Document.parse source = .ok d)
    (rendered : env.render model d.roots = .ok html) :
    ∃ items, Item.htmlAll items = html ∧ Item.AllSafe items ∧ env.Follows model d.roots items :=
  presents_renderAll (faithful_includeView maxInclusion) d.roots
    (Document.wellFormed_of_parse parsed) rendered

/-- A page with a view in it. -/
theorem exists_follows_of_render_paragraph :
    let env : Environment :=
      ⟨.ofSteps [.builtins, .elements ["P"]], .standard, .ofTexts [("card", "input(@'\"')")]⟩
    let model : Value := .map [("name", .string "<b>")]
    let page : Document :=
      ⟨[⟨"p", [⟨.keyword, "name"⟩], [⟨"class", .quoted, "a"⟩, ⟨"title", .keyword, "name"⟩],
        [⟨"partial", [⟨.keyword, "card"⟩], [], []⟩]⟩]⟩
    let html := "<p class=\"a\" title=\"&lt;b&gt;\">&lt;b&gt;<input value=\"&quot;\" /></p>"
    Document.parse "p.a(name)[title=name] > partial(card)" = .ok page ∧
      env.render model page.roots = .ok html ∧
      ∃ items, Item.htmlAll items = html ∧ Item.AllSafe items ∧
        env.Follows model page.roots items := by
  intro env model page html
  have parsed : Document.parse "p.a(name)[title=name] > partial(card)" = .ok page :=
    Except.toOption_eq_some_iff.mp (by decide +kernel)
  have rendered : env.render model page.roots = .ok html :=
    Except.toOption_eq_some_iff.mp (by decide +kernel)
  exact ⟨parsed, rendered, exists_follows_of_render env model parsed rendered⟩

end Environment

end HtmlTemplate
