import HtmlTemplate.Proofs.Path
import HtmlTemplate.Views.Directory

/-!
# Views stay in their directory

The check that a name is plain reads its components, while the path is made from the text of the
name. Both read the same components, so the path of a view has those of the root in front and then
names only.
-/

set_option autoImplicit false

namespace HtmlTemplate.ViewDirectory

theorem isPlain_eq_true_iff (name : String) :
    isPlain name = true ↔ Path.components name ≠ [] ∧ .root ∉ Path.components name ∧
      .current ∉ Path.components name ∧ .parent ∉ Path.components name := by
  unfold isPlain
  rw [Bool.and_eq_true, Bool.not_eq_true', List.isEmpty_eq_false_iff, List.all_eq_true]
  refine and_congr_right fun _ => ⟨fun names => ?_, fun ⟨relative, entered, downwards⟩ => ?_⟩
  · refine ⟨fun member => ?_, fun member => ?_, fun member => ?_⟩ <;> cases names _ member
  · intro component member
    cases component with
    | root => exact (relative member).elim
    | current => exact (entered member).elim
    | parent => exact (downwards member).elim
    | name text => rfl

/-- The name that the file of a view has by the last name in its path. -/
def fileFor (directory : ViewDirectory) (last : String) : String :=
  if directory.extension.isEmpty || Path.extension? last = some directory.extension then last
  else last ++ "." ++ directory.extension

/-- The components of a plain name are its parts that stand for something. There is a last one. -/
theorem components_of_isPlain {name : String} (plain : isPlain name = true) :
    ∃ names last, Path.namesIn name = names ++ [last] ∧
      Path.components name = (names ++ [last]).map .name := by
  obtain ⟨some, relative, entered, downwards⟩ := (isPlain_eq_true_iff name).mp plain
  have read := Path.components_eq_map_name relative entered downwards
  rw [read, ne_eq, List.map_eq_nil_iff] at some
  refine ⟨_, _, (List.dropLast_concat_getLast some).symm, ?_⟩
  rw [List.dropLast_concat_getLast some, read]

/-- The path below the root, before its extension is looked at. -/
theorem components_join_of_isPlain {name last : String} {names : List String}
    (directory : ViewDirectory) (plain : isPlain name = true)
    (read : Path.components name = (names ++ [last]).map .name) :
    Path.components (Path.join directory.root name) =
      (Path.components directory.root ++ names.map .name) ++ [.name last] := by
  obtain ⟨-, relative, entered, -⟩ := (isPlain_eq_true_iff name).mp plain
  rw [Path.components_join relative entered, read]
  simp

theorem pathFor?_eq {name last : String} {names : List String} (directory : ViewDirectory)
    (plain : isPlain name = true) (read : Path.components name = (names ++ [last]).map .name) :
    directory.pathFor? name = some
      (if directory.extension.isEmpty || Path.extension? last = some directory.extension then
        Path.join directory.root name
      else
        Path.withFileName (Path.join directory.root name) (last ++ "." ++ directory.extension)) := by
  have file : Path.fileName? (Path.join directory.root name) = some last := by
    rw [Path.fileName?_eq_some_iff, directory.components_join_of_isPlain plain read,
      List.getLast?_concat]
  simp only [pathFor?, if_pos plain, file, Option.map_some]

theorem pathFor?_of_isPlain {name last : String} {names : List String} (directory : ViewDirectory)
    (whole : '/' ∉ directory.extension.toList) (plain : isPlain name = true)
    (read : Path.components name = (names ++ [last]).map .name) :
    ∃ path, directory.pathFor? name = some path ∧
      Path.components path =
        Path.components directory.root ++ (names ++ [directory.fileFor last]).map .name := by
  have below := directory.components_join_of_isPlain plain read
  refine ⟨_, directory.pathFor?_eq plain read, ?_⟩
  unfold fileFor
  split
  · rw [below]
    simp
  · have inside : .name last ∈ Path.components name := by
      simp [read]
    have extended := (Path.isName_of_mem_components inside).append_extension whole
    rw [Path.components_withFileName below extended]
    simp

theorem pathFor?_eq_none_iff {name : String} (directory : ViewDirectory)
    (whole : '/' ∉ directory.extension.toList) :
    directory.pathFor? name = none ↔ ¬ isPlain name = true := by
  refine ⟨fun refused plain => ?_, fun notPlain => if_neg notPlain⟩
  obtain ⟨names, last, -, read⟩ := components_of_isPlain plain
  obtain ⟨path, found, -⟩ := pathFor?_of_isPlain directory whole plain read
  rw [refused] at found
  cases found

theorem find?_views_eq_some_iff {name : String} {outcome : Except IoError String}
    (directory : ViewDirectory) (fs : FileSystem) :
    (directory.views fs).find? name = some outcome ↔
      ∃ path, directory.pathFor? name = some path ∧ fs.isFile path = true ∧
        fs.readText path = outcome := by
  simp only [views]
  cases directory.pathFor? name with
  | none => simp
  | some path => by_cases file : fs.isFile path = true <;> simp [file]

/-- A directory resolves no name that is empty, absolute, starts with a single point or has two
points as a part. Every other name has a path, which is the root with the names of the view below
it, so it leads strictly below the root. A view is found exactly if that path leads to a file, and
what is read is that file. -/
theorem paths_stay_below_root (directory : ViewDirectory) (whole : '/' ∉ directory.extension.toList)
    (fs : FileSystem) (name : String) :
    (directory.pathFor? name = none ↔
        Path.components name = [] ∨ name.toList.head? = some '/' ∨
          (Text.splitAt '/' name).head? = some "." ∨ ".." ∈ Text.splitAt '/' name) ∧
      (∀ path, directory.pathFor? name = some path →
        ∃ names last, Path.namesIn name = names ++ [last] ∧
          Path.components name = (names ++ [last]).map .name ∧
          Path.components path =
            Path.components directory.root ++ (names ++ [directory.fileFor last]).map .name) ∧
      ∀ outcome, (directory.views fs).find? name = some outcome ↔
        ∃ path, directory.pathFor? name = some path ∧ fs.isFile path = true ∧
          fs.readText path = outcome := by
  refine ⟨?_, fun path found => ?_, fun outcome => find?_views_eq_some_iff directory fs⟩
  · rw [pathFor?_eq_none_iff directory whole, isPlain_eq_true_iff,
      ← Path.root_mem_components_iff, ← Path.current_mem_components_iff,
      ← Path.parent_mem_components_iff]
    simp only [ne_eq, Classical.not_and_iff_not_or_not, Classical.not_not]
  · have plain : isPlain name = true := Decidable.not_not.mp fun refused => by
      rw [(pathFor?_eq_none_iff directory whole).mpr refused] at found
      cases found
    obtain ⟨names, last, parts, read⟩ := components_of_isPlain plain
    obtain ⟨path', found', below⟩ := pathFor?_of_isPlain directory whole plain read
    obtain rfl := Option.some.inj (found.symm.trans found')
    exact ⟨names, last, parts, read, below⟩

/-- Slashes that are repeated or at the end and single points make no difference to where the view
is, and two points leave the name without a path. -/
theorem paths_stay_below_root_footer :
    '/' ∉ "plume".toList ∧
      (ViewDirectory.mk "../views/" "plume").pathFor? "shared/../../secret" = none ∧
      ∃ path, (ViewDirectory.mk "../views/" "plume").pathFor? "shared//./footer/" = some path ∧
        Path.components path =
          [.parent, .name "views", .name "shared", .name "footer.plume"] := by
  have whole : '/' ∉ "plume".toList := by decide
  have spec := paths_stay_below_root ⟨"../views/", "plume"⟩ whole (FileSystem.empty [])
  obtain ⟨path, found⟩ := Option.ne_none_iff_exists'.mp fun refused =>
    absurd ((spec "shared//./footer/").1.mp refused) (by decide)
  obtain ⟨names, last, parts, -, below⟩ := (spec "shared//./footer/").2.1 _ found
  have evaluated : Path.namesIn "shared//./footer/" = ["shared"] ++ ["footer"] := by decide
  obtain ⟨rfl, last⟩ := List.append_inj' (evaluated.symm.trans parts) rfl
  obtain rfl := List.singleton_inj.mp last
  exact ⟨whole, (spec _).1.mpr (by decide), path, found, below⟩

end HtmlTemplate.ViewDirectory
