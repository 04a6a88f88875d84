import VerifiedBuild.Proofs.Path.Split

/-!
# Other extensions

What giving a path another extension changes: the extension and nothing else. This holds for every
path with a file name, also for `.` and `..`, hidden files and names that end with a dot.
-/

namespace VerifiedBuild.Path

variable {path other ext : String}

/-- An extension that can be told from the rest of a name. -/
structure IsPlain (ext : String) : Prop where
  nonempty : ext ≠ ""
  slash : '/' ∉ ext.toList
  dot : '.' ∉ ext.toList

theorem stem_withExtension (named : fileName path ≠ "") (plain : IsPlain ext) :
    stem (withExtension path ext) = stem path ∧ extension (withExtension path ext) = "." ++ ext :=
  parts_of_fileName (fileName_withExtension path plain.slash plain.nonempty) (stem_ne_empty named)
    plain.dot plain.nonempty

/-! ## Directory and stem -/

theorem withExtension_congr (directories : directoryChars path.toList = directoryChars other.toList)
    (stems : stem path = stem other) (ext : String) :
    withExtension path ext = withExtension other ext := by
  rw [stem, stem, String.ofList_inj] at stems
  rw [withExtension, withExtension, directories, stems]

theorem withExtension_withExtension (named : fileName path ≠ "") (plain : IsPlain ext)
    (last : String) : withExtension (withExtension path ext) last = withExtension path last :=
  withExtension_congr (directoryChars_withExtension path plain.slash plain.nonempty)
    (stem_withExtension named plain).1 last

/-! ## File names -/

theorem stem_fileName (path : String) : stem (fileName path) = stem path := by
  rw [stem, stem, fileName, String.toList_ofList,
    nameChars_of_plain (slash_not_mem_nameChars path.toList)]

theorem extension_fileName (path : String) : extension (fileName path) = extension path := by
  rw [extension, extension, fileName, String.toList_ofList,
    nameChars_of_plain (slash_not_mem_nameChars path.toList)]

theorem fileName_fileName (path : String) : fileName (fileName path) = fileName path := by
  rw [fileName, nameChars_of_plain (slash_not_mem_fileName path), String.ofList_toList]

theorem withExtension_fileName (path : String) (slash : '/' ∉ ext.toList) (nonempty : ext ≠ "") :
    withExtension (fileName path) ext = fileName (withExtension path ext) := by
  apply String.toList_inj.mp
  rw [toList_withExtension _ nonempty, fileName_withExtension path slash nonempty, stem_fileName,
    directoryChars_of_plain (slash_not_mem_fileName path)]
  simp

end VerifiedBuild.Path
