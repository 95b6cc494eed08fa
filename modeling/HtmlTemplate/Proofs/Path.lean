import HtmlTemplate.Path
import HtmlTemplate.Proofs.Text.Runs
import HtmlTemplate.Proofs.Text.Split

/-!
# Components of paths

What the parts of a path stand for depends only at the front on where they are, so a path that
starts with a name adds its components to those of the path it is put below (`components_join`).
Components written with slashes between them are read again (`components_ofComponents`). The
extension of a file name is what stands behind its last point, so it has no point itself
(`extension?_eq_some_iff`).
-/

set_option autoImplicit false

namespace HtmlTemplate.Path

/-- The text can be the name of an entry of a directory. -/
structure IsName (text : String) : Prop where
  nonempty : text ≠ ""
  notCurrent : text ≠ "."
  notParent : text ≠ ".."
  whole : '/' ∉ text.toList

/-- A name with an extension put behind it is a name. -/
theorem IsName.append_extension {text extension : String} (name : IsName text)
    (whole : '/' ∉ extension.toList) : IsName (text ++ "." ++ extension) := by
  have chars : (text ++ "." ++ extension).toList = text.toList ++ '.' :: extension.toList := by
    simp
  obtain ⟨c, cs, split⟩ : ∃ c cs, text.toList = c :: cs :=
    List.exists_cons_of_ne_nil fun none => name.nonempty (String.toList_eq_nil_iff.mp none)
  refine ⟨fun same => ?_, fun same => ?_, fun same => ?_, ?_⟩
  · rw [same, split] at chars
    cases chars
  · rw [same, split] at chars
    simp at chars
  · -- Two points leave only one of them for the text, and a single point is no name.
    rw [same, split] at chars
    simp only [List.cons_append] at chars
    obtain ⟨rfl, tail⟩ := List.cons.inj chars
    cases cs with
    | nil => exact name.notCurrent (String.toList_inj.mp split)
    | cons d ds =>
      have size := congrArg List.length (List.cons.inj tail).2
      simp at size
  · rw [chars, List.mem_append, List.mem_cons]
    rintro (here | point | later)
    · exact name.whole here
    · cases point
    · exact whole later

namespace Component

/-- The component may stand behind the front of a path. -/
def IsInner : Component → Prop
  | root | current => False
  | parent => True
  | name text => IsName text

end Component

theorem component?_eq_some_iff {part : String} {component : Component} :
    component? part = some component ↔
      part = ".." ∧ component = .parent ∨
        part ≠ "" ∧ part ≠ "." ∧ part ≠ ".." ∧ component = .name part := by
  unfold component?
  split
  · next skipped =>
    simp only [Bool.or_eq_true, decide_eq_true_eq] at skipped
    rcases skipped with rfl | rfl <;> simp
  · next other =>
    simp only [Bool.or_eq_true, decide_eq_true_eq, not_or] at other
    split
    · next parent =>
      subst parent
      rw [Option.some.injEq, eq_comm]
      simp
    · next notParent =>
      rw [Option.some.injEq, eq_comm]
      simp [other, notParent]

theorem component?_eq_none_iff {part : String} :
    component? part = none ↔ part = "" ∨ part = "." := by
  unfold component?
  split
  · next skipped => simpa using skipped
  · next other =>
    split <;> simpa using other

theorem isInner_of_component? {part : String} {component : Component} (whole : '/' ∉ part.toList)
    (found : component? part = some component) : component.IsInner := by
  rcases component?_eq_some_iff.mp found with ⟨-, rfl⟩ | ⟨nonempty, notCurrent, notParent, rfl⟩
  · trivial
  · exact ⟨nonempty, notCurrent, notParent, whole⟩

theorem component?_text {component : Component} (inner : component.IsInner) :
    component? component.text = some component ∧ '/' ∉ component.text.toList := by
  cases component with
  | root | current => exact inner.elim
  | parent => exact ⟨rfl, by decide⟩
  | name text => exact ⟨component?_eq_some_iff.mpr
      (Or.inr ⟨inner.nonempty, inner.notCurrent, inner.notParent, rfl⟩), inner.whole⟩

/-! ## Fronts and what follows -/

/-- What the first part of a path stands for. Nothing follows it if it is `last`. -/
def front (first : String) (last : Bool) : List Component :=
  if first = "" then (if last then [] else [.root])
  else if first = "." then [.current]
  else (component? first).toList

theorem front_of_found {first : String} {component : Component} (last : Bool)
    (found : component? first = some component) : front first last = [component] := by
  rcases component?_eq_some_iff.mp found with ⟨rfl, rfl⟩ | ⟨nonempty, notCurrent, -, -⟩
  · rfl
  · rw [front, if_neg nonempty, if_neg notCurrent, found, Option.toList_some]

theorem components_eq {path first : String} {rest : List String}
    (split : Text.splitAt '/' path = first :: rest) :
    components path = front first rest.isEmpty ++ rest.filterMap component? := by
  rw [components, split]
  split
  · next same =>
    obtain ⟨rfl, rfl⟩ := List.cons.inj same
    rfl
  · next same =>
    obtain ⟨rfl, rfl⟩ := List.cons.inj same
    rfl
  · next other other' =>
    have notRoot : first ≠ "" := fun same => other rest (by rw [same])
    have notCurrent : first ≠ "." := fun same => other' rest (by rw [same])
    rw [front, if_neg notRoot, if_neg notCurrent, List.filterMap_cons]
    cases component? first <;> rfl

/-- Components as they may stand in a path: only the first one can be a root or the current
directory. -/
def WellPlaced : List Component → Prop
  | [] => True
  | first :: rest => (first = .root ∨ first = .current ∨ first.IsInner) ∧
      ∀ component ∈ rest, component.IsInner

theorem WellPlaced.append {components more : List Component} (placed : WellPlaced components)
    (inner : ∀ component ∈ more, component.IsInner) : WellPlaced (components ++ more) := by
  cases components with
  | nil =>
    cases more with
    | nil => trivial
    | cons first rest =>
      obtain ⟨here, later⟩ := List.forall_mem_cons.mp inner
      exact ⟨Or.inr (Or.inr here), later⟩
  | cons first rest => exact ⟨placed.1, List.forall_mem_append.mpr ⟨placed.2, inner⟩⟩

theorem WellPlaced.of_append {components more : List Component}
    (placed : WellPlaced (components ++ more)) : WellPlaced components := by
  cases components with
  | nil => trivial
  | cons first rest => exact ⟨placed.1, (List.forall_mem_append.mp placed.2).1⟩

theorem wellPlaced_front {first : String} (last : Bool) (whole : '/' ∉ first.toList) :
    WellPlaced (front first last) := by
  unfold front
  split
  · cases last with
    | true => trivial
    | false => exact ⟨Or.inl rfl, by simp⟩
  · split
    · exact ⟨Or.inr (Or.inl rfl), by simp⟩
    · cases found : component? first with
      | none => trivial
      | some component =>
        exact ⟨Or.inr (Or.inr (isInner_of_component? whole found)), by simp⟩

theorem isInner_of_mem {parts : List String} {component : Component}
    (whole : ∀ part ∈ parts, '/' ∉ part.toList)
    (member : component ∈ parts.filterMap component?) : component.IsInner := by
  obtain ⟨part, inside, found⟩ := List.mem_filterMap.mp member
  exact isInner_of_component? (whole part inside) found

theorem wellPlaced_components (path : String) : WellPlaced (components path) := by
  obtain ⟨first, rest, split⟩ := Text.exists_splitAt_eq_cons '/' path
  have whole : ∀ part ∈ first :: rest, '/' ∉ part.toList := fun part member =>
    Text.not_mem_of_mem_splitAt (split ▸ member)
  obtain ⟨here, later⟩ := List.forall_mem_cons.mp whole
  rw [components_eq split]
  exact (wellPlaced_front _ here).append fun component member => isInner_of_mem later member

theorem front_eq_toList {first : String} {last : Bool} (relative : .root ∉ front first last)
    (entered : .current ∉ front first last) : front first last = (component? first).toList := by
  by_cases empty : first = ""
  · subst empty
    cases last with
    | true => rfl
    | false => exact (relative List.mem_cons_self).elim
  · by_cases point : first = "."
    · subst point
      exact (entered List.mem_cons_self).elim
    · rw [front, if_neg empty, if_neg point]

theorem mem_front_iff {component : Component} {first : String} {last : Bool} :
    component ∈ front first last ↔
      first = "" ∧ last = false ∧ component = .root ∨ first = "." ∧ component = .current ∨
        component? first = some component := by
  by_cases empty : first = ""
  · subst empty
    cases last <;> simp [front, component?]
  · by_cases point : first = "."
    · subst point
      simp [front, component?]
    · simp [front, empty, point]

theorem mem_components_iff {path first : String} {rest : List String} {component : Component}
    (split : Text.splitAt '/' path = first :: rest) :
    component ∈ components path ↔
      first = "" ∧ rest ≠ [] ∧ component = .root ∨ first = "." ∧ component = .current ∨
        ∃ part ∈ first :: rest, component? part = some component := by
  rw [components_eq split, List.mem_append, mem_front_iff, List.mem_filterMap,
    List.isEmpty_eq_false_iff]
  simp only [List.mem_cons, exists_eq_or_imp, or_assoc]

/-- A path is absolute exactly if it begins with a slash. -/
theorem root_mem_components_iff (path : String) :
    .root ∈ components path ↔ path.toList.head? = some '/' := by
  obtain ⟨first, rest, split⟩ := Text.exists_splitAt_eq_cons '/' path
  rw [Text.head?_eq_separator_iff split, mem_components_iff split]
  simp [component?_eq_some_iff]

theorem current_mem_components_iff (path : String) :
    .current ∈ components path ↔ (Text.splitAt '/' path).head? = some "." := by
  obtain ⟨first, rest, split⟩ := Text.exists_splitAt_eq_cons '/' path
  rw [split, mem_components_iff split]
  simp [component?_eq_some_iff]

theorem parent_mem_components_iff (path : String) :
    .parent ∈ components path ↔ ".." ∈ Text.splitAt '/' path := by
  obtain ⟨first, rest, split⟩ := Text.exists_splitAt_eq_cons '/' path
  rw [split, mem_components_iff split]
  simp [component?_eq_some_iff]

theorem isName_of_mem_components {path text : String} (member : .name text ∈ components path) :
    IsName text := by
  obtain ⟨first, rest, split⟩ := Text.exists_splitAt_eq_cons '/' path
  obtain ⟨-, -, root⟩ | ⟨-, current⟩ | ⟨part, inside, found⟩ := (mem_components_iff split).mp member
  · cases root
  · cases current
  · exact isInner_of_component? (Text.not_mem_of_mem_splitAt (split ▸ inside)) found

/-! ## Names -/

/-- The parts of a path that are neither empty nor a single point. -/
def namesIn (path : String) : List String :=
  (Text.splitAt '/' path).filter fun part => part ≠ "" ∧ part ≠ "."

theorem filterMap_component?_cons (part : String) (rest : List String) :
    (part :: rest).filterMap component? =
      (component? part).toList ++ rest.filterMap component? := by
  rw [List.filterMap_cons]
  cases component? part <;> rfl

/-- A relative path that does not start with a point is read part by part. -/
theorem components_eq_filterMap {path : String} (relative : .root ∉ components path)
    (entered : .current ∉ components path) :
    components path = (Text.splitAt '/' path).filterMap component? := by
  obtain ⟨first, rest, split⟩ := Text.exists_splitAt_eq_cons '/' path
  rw [components_eq split, List.mem_append, not_or] at relative entered
  rw [components_eq split, split, filterMap_component?_cons, front_eq_toList relative.1 entered.1]

theorem filterMap_component?_eq_map_name {parts : List String}
    (downwards : .parent ∉ parts.filterMap component?) :
    parts.filterMap component? =
      (parts.filter fun part => part ≠ "" ∧ part ≠ ".").map .name := by
  induction parts with
  | nil => rfl
  | cons part rest ih =>
    rw [filterMap_component?_cons, List.mem_append, not_or] at downwards
    rw [filterMap_component?_cons, ih downwards.2]
    by_cases skipped : part = "" ∨ part = "."
    · rcases skipped with rfl | rfl <;> rfl
    · rw [not_or] at skipped
      have notParent : part ≠ ".." := fun same => by
        rw [same] at downwards
        exact downwards.1 (by decide)
      have read : component? part = some (.name part) :=
        component?_eq_some_iff.mpr (Or.inr ⟨skipped.1, skipped.2, notParent, rfl⟩)
      rw [read, List.filter_cons_of_pos (by simpa using skipped)]
      rfl

/-- Without parts that lead upwards, every component is a name. -/
theorem components_eq_map_name {path : String} (relative : .root ∉ components path)
    (entered : .current ∉ components path) (downwards : .parent ∉ components path) :
    components path = (namesIn path).map .name := by
  rw [components_eq_filterMap relative entered] at downwards ⊢
  exact filterMap_component?_eq_map_name downwards

/-! ## Writing components -/

theorem filterMap_component?_text {components : List Component}
    (inner : ∀ component ∈ components, component.IsInner) :
    (components.map Component.text).filterMap component? = components := by
  induction components with
  | nil => rfl
  | cons component rest ih =>
    obtain ⟨here, later⟩ := List.forall_mem_cons.mp inner
    rw [List.map_cons, List.filterMap_cons, (component?_text here).1, ih later]

theorem WellPlaced.whole {components : List Component} (placed : WellPlaced components) :
    ∀ component ∈ components, '/' ∉ component.text.toList := by
  cases components with
  | nil => simp
  | cons first rest =>
    obtain ⟨start, inner⟩ := placed
    refine List.forall_mem_cons.mpr ⟨?_, fun component later =>
      (component?_text (inner component later)).2⟩
    rcases start with rfl | rfl | inner
    · decide
    · decide
    · exact (component?_text inner).2

theorem splitAt_ofComponents {written : List Component} (placed : WellPlaced written)
    (some : written ≠ []) (more : written ≠ [.root]) :
    Text.splitAt '/' (ofComponents written) = written.map Component.text := by
  have text : ofComponents written =
      (String.singleton '/').intercalate (written.map Component.text) := by
    unfold ofComponents
    split
    · exact (more rfl).elim
    · rfl
  rw [text, Text.splitAt_intercalate (by simpa using some)]
  rintro part member
  obtain ⟨component, inside, rfl⟩ := List.mem_map.mp member
  exact placed.whole component inside

/-- Components that may stand in a path are read from their texts with slashes between them. -/
theorem components_ofComponents {written : List Component} (placed : WellPlaced written)
    (some : written ≠ []) : components (ofComponents written) = written := by
  by_cases alone : written = [.root]
  · rw [alone]
    decide
  obtain ⟨first, rest, rfl⟩ := List.exists_cons_of_ne_nil some
  obtain ⟨start, inner⟩ := placed
  have split : Text.splitAt '/' (ofComponents (first :: rest)) =
      first.text :: rest.map Component.text := splitAt_ofComponents ⟨start, inner⟩ some alone
  rw [components_eq split, filterMap_component?_text inner]
  rcases start with rfl | rfl | here
  · have some : rest ≠ [] := fun none => alone (by rw [none])
    simp [front, Component.text, some]
  · rfl
  · rw [front_of_found _ (component?_text here).1, List.singleton_append]

/-- Another file name changes the last component and nothing else. -/
theorem components_withFileName {path last file : String} {before : List Component}
    (split : components path = before ++ [.name last]) (name : IsName file) :
    components (withFileName path file) = before ++ [.name file] := by
  have placed : WellPlaced (before ++ [.name file]) :=
    (split ▸ wellPlaced_components path).of_append.append (by simpa [Component.IsInner] using name)
  rw [withFileName, split, List.dropLast_concat, components_ofComponents placed (by simp)]

/-! ## Paths below other paths -/

/-- Behind a slash there is at least one part, so a slash behind an empty text is the root. -/
theorem components_append_slash {before behind first : String} {rest : List String}
    (split : Text.splitAt '/' before = first :: rest) :
    components (before ++ "/" ++ behind) =
      front first false ++ rest.filterMap component? ++
        (Text.splitAt '/' behind).filterMap component? := by
  have parts : Text.splitAt '/' (before ++ "/" ++ behind) =
      first :: (rest ++ Text.splitAt '/' behind) := by
    have slash : String.singleton '/' = "/" := rfl
    rw [← slash, Text.splitAt_append, split, List.cons_append]
  have more : (rest ++ Text.splitAt '/' behind).isEmpty = false := by
    obtain ⟨part, parts, some⟩ := Text.exists_splitAt_eq_cons '/' behind
    simp [some]
  rw [components_eq parts, more, List.filterMap_append, List.append_assoc]

/-- A relative path that does not start with a point, put below another path, adds its components
to those of the other. -/
theorem components_join {base path : String} (relative : .root ∉ components path)
    (entered : .current ∉ components path) :
    components (join base path) = components base ++ components path := by
  rw [components_eq_filterMap relative entered, join]
  split
  · next direct =>
    rw [Bool.or_eq_true, String.isEmpty_iff] at direct
    rcases direct with rfl | slash
    · rw [String.empty_append, ← components_eq_filterMap relative entered]
      rfl
    · obtain ⟨before, rfl⟩ : ∃ before, base = before ++ "/" := by
        rw [← String.endsWith_toSlice, String.Slice.endsWith_string_iff,
          String.copy_toSlice] at slash
        obtain ⟨cs, same⟩ := slash
        exact ⟨String.ofList cs, by rw [← String.toList_inj, ← same]; simp⟩
      obtain ⟨first, rest, split⟩ := Text.exists_splitAt_eq_cons '/' before
      have nothing : (Text.splitAt '/' "").filterMap component? = [] := rfl
      have below : components (before ++ "/" ++ "") = _ := components_append_slash split
      rw [String.append_empty, nothing, List.append_nil] at below
      rw [components_append_slash split, below]
  · next apart =>
    rw [Bool.or_eq_true, String.isEmpty_iff, not_or] at apart
    obtain ⟨first, rest, split⟩ := Text.exists_splitAt_eq_cons '/' base
    have same : front first rest.isEmpty = front first false := by
      cases rest with
      | cons second rest => rfl
      | nil =>
        have nonempty : first ≠ "" := Text.splitAt_eq_singleton split ▸ apart.1
        rw [front, front, if_neg nonempty, if_neg nonempty]
    rw [components_append_slash split, components_eq split, same]

/-! ## The last component -/

theorem fileName?_eq_some_iff {path last : String} :
    fileName? path = some last ↔ (components path).getLast? = some (.name last) := by
  unfold fileName?
  split
  · next name found => simp [found]
  · next other => simpa using other last

/-- What stands in front of the last component is decided by the parts in front of the last one. -/
theorem exists_components_concat (parts : List String) :
    ∃ before, ∀ path part component, Text.splitAt '/' path = parts ++ [part] →
      component? part = some component → components path = before ++ [component] := by
  cases parts with
  | nil =>
    refine ⟨[], fun path part component split found => ?_⟩
    rw [components_eq split, front_of_found _ found]
    rfl
  | cons first rest =>
    refine ⟨front first false ++ rest.filterMap component?, fun path part component split found => ?_⟩
    have last : [part].filterMap component? = [component] := by
      rw [filterMap_component?_cons, found]
      rfl
    have more : (rest ++ [part]).isEmpty = false := by simp
    rw [components_eq (List.cons_append ▸ split), more, List.filterMap_append, last,
      List.append_assoc]

/-- An extension put behind a path that ends with its file name is put behind that name. -/
theorem components_append_extension {path last extension : String}
    (whole : '/' ∉ extension.toList) (file : fileName? path = some last)
    (ends : last.toList <:+ path.toList) :
    ∃ before, components path = before ++ [.name last] ∧
      components (path ++ "." ++ extension) = before ++ [.name (last ++ "." ++ extension)] := by
  have found := fileName?_eq_some_iff.mp file
  have name : IsName last := isName_of_mem_components (List.mem_of_getLast? found)
  have extended := name.append_extension whole
  obtain ⟨front, rfl⟩ : ∃ front, path = front ++ last := by
    obtain ⟨cs, same⟩ := ends
    exact ⟨.ofList cs, by rw [← String.toList_inj, ← same]; simp⟩
  obtain ⟨parts, tail, split⟩ := Text.exists_splitAt_append '/' front
  obtain ⟨before, read⟩ := exists_components_concat parts
  obtain ⟨component, here⟩ : ∃ component, component? (tail ++ last) = some component := by
    refine Option.ne_none_iff_exists'.mp fun none => ?_
    rcases component?_eq_none_iff.mp none with empty | point
    · exact name.nonempty (String.append_eq_empty_iff.mp empty).2
    · have chars := congrArg String.toList point
      rw [String.toList_append] at chars
      rcases List.append_eq_singleton_iff.mp chars with ⟨-, same⟩ | ⟨-, empty⟩
      · exact name.notCurrent (String.toList_inj.mp same)
      · exact name.nonempty (String.toList_eq_nil_iff.mp empty)
  -- The last part stands for the file name, so nothing precedes the name in it.
  have path := read _ _ _ (split last name.whole) here
  rw [path, List.getLast?_concat, Option.some.injEq] at found
  obtain rfl := found
  have same : tail ++ last = last := by
    rcases component?_eq_some_iff.mp here with ⟨-, parent⟩ | ⟨-, -, -, same⟩
    · cases parent
    · exact (Component.name.inj same).symm
  refine ⟨before, path, ?_⟩
  have whole' : front ++ last ++ "." ++ extension = front ++ (last ++ "." ++ extension) := by
    simp only [String.append_assoc]
  have last' : tail ++ (last ++ "." ++ extension) = last ++ "." ++ extension := by
    rw [← String.append_assoc, ← String.append_assoc, same]
  have inner : (Component.name (last ++ "." ++ extension)).IsInner := extended
  rw [whole']
  refine read _ _ _ (split _ extended.whole) ?_
  rw [last']
  exact (component?_text inner).1

/-! ## Extensions -/

/-- The name is a text, which is not empty, with a point and the extension behind it. -/
def HasExtension (fileName extension : String) : Prop :=
  ∃ stem, stem ≠ "" ∧ fileName = stem ++ "." ++ extension

/-- What counts as the extension of a name is what it ends with behind a point, as long as that has
no point itself. -/
theorem extension?_eq_some_iff {fileName extension : String} :
    extension? fileName = some extension ↔
      '.' ∉ extension.toList ∧ HasExtension fileName extension := by
  constructor
  · intro found
    simp only [extension?] at found
    split at found
    · next c d rest stop =>
      obtain ⟨whole, point⟩ := eq_append_of_dropWhile_cons stop
      obtain rfl : c = '.' := by simpa using point
      obtain rfl := Option.some.inj found
      refine ⟨fun member => ?_, .ofList (d :: rest).reverse, by simp [← String.toList_inj], ?_⟩
      · rw [String.toList_ofList, List.mem_reverse] at member
        simpa using List.mem_takeWhile_imp member
      · have text := congrArg List.reverse whole
        rw [List.reverse_reverse] at text
        exact String.toList_inj.mp (text.trans (by simp))
    · cases found
  · rintro ⟨plain, stem, some, rfl⟩
    obtain ⟨c, rest, nonempty⟩ : ∃ c rest, stem.toList.reverse = c :: rest :=
      List.exists_cons_of_ne_nil (by simpa using some)
    have reversed : (stem ++ "." ++ extension).toList.reverse =
        extension.toList.reverse ++ '.' :: c :: rest := by
      simp [← nonempty]
    have behind : ∀ d ∈ extension.toList.reverse, decide (d ≠ '.') = true := by
      intro d member
      simpa using fun same : d = '.' => plain (same ▸ List.mem_reverse.mp member)
    have stop : ∀ d ∈ ('.' :: c :: rest).head?, decide (d ≠ '.') = false := by simp
    simp only [extension?, reversed, takeWhile_append_of_stop behind stop,
      dropWhile_append_of_stop behind stop, List.reverse_reverse, String.ofList_toList]

end HtmlTemplate.Path
