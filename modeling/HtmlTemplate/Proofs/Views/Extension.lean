import HtmlTemplate.Proofs.Views.Directory

/-!
# The extension of view files

A name that already ends with the extension is left as it is, and any other name gets the extension,
so that a view can be named with its extension or without it. Whether a name ends with the extension
is told by what stands behind its last point, while the whole extension is put behind a name. The
two go together only if the extension has no point (`named_with_or_without_extension`): an extension
with a point is put behind every name, also behind one that ends with it
(`not_named_with_or_without_pointed`).
-/

set_option autoImplicit false

namespace HtmlTemplate.ViewDirectory

variable {directory : ViewDirectory} {name last path : String}

theorem fileFor_eq_ite (nonempty : directory.extension ≠ "") :
    directory.fileFor last =
      if Path.extension? last = some directory.extension then last
      else last ++ "." ++ directory.extension := by
  have notEmpty : directory.extension.isEmpty = false :=
    Bool.eq_false_iff.mpr fun empty => nonempty (String.isEmpty_iff.mp empty)
  simp [fileFor, notEmpty]

theorem fileFor_eq_self_iff (nonempty : directory.extension ≠ "") :
    directory.fileFor last = last ↔
      '.' ∉ directory.extension.toList ∧ Path.HasExtension last directory.extension := by
  rw [fileFor_eq_ite nonempty, ← Path.extension?_eq_some_iff, ite_eq_left_iff, not_imp_comm]
  refine imp_iff_right fun longer => ?_
  have size := congrArg (fun s : String => s.toList.length) longer
  simp at size

theorem isPlain_of_components {names : List String} (some : names ≠ [])
    (read : Path.components name = names.map .name) : isPlain name = true := by
  rw [isPlain_eq_true_iff, read]
  simp [some]

theorem isPlain_of_pathFor? (found : directory.pathFor? name = some path) :
    isPlain name = true := by
  by_contra refused
  rw [pathFor?, if_neg refused] at found
  cases found

/-- A name with the extension put behind it names a file with the extension put behind its name. -/
theorem exists_pathFor?_append_extension {names : List String}
    (whole : '/' ∉ directory.extension.toList)
    (read : Path.components name = (names ++ [last]).map .name)
    (ends : last.toList <:+ name.toList) :
    ∃ path, directory.pathFor? (name ++ "." ++ directory.extension) = some path ∧
      Path.components path = Path.components directory.root ++
        (names ++ [directory.fileFor (last ++ "." ++ directory.extension)]).map .name := by
  have file : Path.fileName? name = some last := by
    rw [Path.fileName?_eq_some_iff, read]
    simp
  obtain ⟨before, path, extended⟩ := Path.components_append_extension whole file ends
  have same : before = names.map .name := by
    rw [read, List.map_append] at path
    exact (List.append_inj_left' path rfl).symm
  have read' : Path.components (name ++ "." ++ directory.extension) =
      (names ++ [last ++ "." ++ directory.extension]).map .name := by
    rw [extended, same]
    simp
  exact directory.pathFor?_of_isPlain whole (isPlain_of_components (by simp) read') read'

/-- The path of a view keeps the name as it is if the name ends with the extension and the extension
has no point. Otherwise the extension is put behind the file name, and naming the view with the
extension leads to the same path exactly if the extension has no point. -/
theorem named_with_or_without_extension (nonempty : directory.extension ≠ "")
    (whole : '/' ∉ directory.extension.toList) (found : directory.pathFor? name = some path)
    (file : Path.fileName? name = some last) (ends : last.toList <:+ name.toList) :
    ('.' ∉ directory.extension.toList ∧ Path.HasExtension last directory.extension →
        path = Path.join directory.root name) ∧
      (¬('.' ∉ directory.extension.toList ∧ Path.HasExtension last directory.extension) →
        ∃ before, Path.components (Path.join directory.root name) = before ++ [.name last] ∧
          Path.components path = before ++ [.name (last ++ "." ++ directory.extension)]) ∧
      (¬ Path.HasExtension last directory.extension →
        ((directory.pathFor? (name ++ "." ++ directory.extension)).map Path.components =
            some (Path.components path) ↔ '.' ∉ directory.extension.toList)) := by
  have plain := isPlain_of_pathFor? found
  obtain ⟨names, last', -, read⟩ := components_of_isPlain plain
  obtain rfl : last' = last := by
    rw [Path.fileName?_eq_some_iff, read] at file
    simpa using file
  obtain ⟨path', found', below⟩ := directory.pathFor?_of_isPlain whole plain read
  obtain rfl := Option.some.inj (found.symm.trans found')
  have appended (other : ¬('.' ∉ directory.extension.toList ∧
      Path.HasExtension last' directory.extension)) :
      directory.fileFor last' = last' ++ "." ++ directory.extension := by
    rw [fileFor_eq_ite nonempty, if_neg (mt Path.extension?_eq_some_iff.mp other)]
  refine ⟨fun kept => ?_, fun other => ?_, fun other => ?_⟩
  · rw [directory.pathFor?_eq plain read, Path.extension?_eq_some_iff.mpr kept] at found
    simpa using found.symm
  · refine ⟨_, directory.components_join_of_isPlain plain read, ?_⟩
    rw [below, appended other]
    simp
  · obtain ⟨extended, found'', below'⟩ := exists_pathFor?_append_extension whole read ends
    have some : last' ≠ "" := by
      have member : .name last' ∈ Path.components name := by simp [read]
      exact (Path.isName_of_mem_components member).nonempty
    have has : Path.HasExtension (last' ++ "." ++ directory.extension) directory.extension :=
      ⟨last', some, rfl⟩
    have kept_iff := (fileFor_eq_self_iff nonempty).trans (and_iff_left has)
    rw [← kept_iff, found'', Option.map_some, below', below, appended fun both => other both.2]
    simp

/-- A name that is nothing but a point and the extension does not end with the extension yet. -/
theorem named_with_or_without_extension_hidden :
    "plume" ≠ "" ∧ '/' ∉ "plume".toList ∧ ".plume".toList <:+ "shared/.plume".toList ∧
      Path.fileName? "shared/.plume" = some ".plume" ∧
      ∃ path, (ViewDirectory.mk "views" "plume").pathFor? "shared/.plume" = some path ∧
        Path.components path = [.name "views", .name "shared", .name ".plume.plume"] ∧
        ((ViewDirectory.mk "views" "plume").pathFor? "shared/.plume.plume").map Path.components =
          some (Path.components path) := by
  have nonempty : "plume" ≠ "" := by decide
  have whole : '/' ∉ "plume".toList := by decide
  have ends : ".plume".toList <:+ "shared/.plume".toList := by decide
  have file : Path.fileName? "shared/.plume" = some ".plume" := by decide
  have found : (ViewDirectory.mk "views" "plume").pathFor? "shared/.plume" =
      some "views/shared/.plume.plume" := by decide +kernel
  obtain ⟨-, appended, same⟩ := named_with_or_without_extension nonempty whole found file ends
  have plain : '.' ∉ "plume".toList := by decide
  have other : ¬ Path.HasExtension ".plume" "plume" := fun has =>
    absurd (Path.extension?_eq_some_iff.mpr ⟨plain, has⟩) (by decide)
  obtain ⟨before, joined, read⟩ := appended fun both => other both.2
  have evaluated : Path.components (Path.join "views" "shared/.plume") =
      [.name "views", .name "shared"] ++ [.name ".plume"] := by decide +kernel
  obtain rfl := List.append_inj_left' (evaluated.symm.trans joined) rfl
  exact ⟨nonempty, whole, ends, file, _, found, read, (same other).mpr plain⟩

/-- An extension with a point is put behind a name that already ends with it. -/
theorem not_named_with_or_without_pointed :
    ¬∀ (directory : ViewDirectory) (name last path : String), directory.extension ≠ "" →
      '/' ∉ directory.extension.toList → directory.pathFor? name = some path →
      Path.fileName? name = some last → last.toList <:+ name.toList →
        (Path.HasExtension last directory.extension → path = Path.join directory.root name) ∧
          (¬ Path.HasExtension last directory.extension →
            (directory.pathFor? (name ++ "." ++ directory.extension)).map Path.components =
              some (Path.components path)) := by
  intro always
  have found : (ViewDirectory.mk "views" "b.plume").pathFor? "a.b.plume" =
      some "views/a.b.plume.b.plume" := by decide +kernel
  have ended : Path.HasExtension "a.b.plume" "b.plume" := ⟨"a", by decide, by decide⟩
  have kept := (always _ _ "a.b.plume" _ (by decide) (by decide) found (by decide)
    (List.suffix_refl _)).1 ended
  exact absurd kept (by decide +kernel)

end HtmlTemplate.ViewDirectory
