import DrivewayWatch.ImageCopy
import DrivewayWatch.Proofs.Bytes.Hex
import DrivewayWatch.Proofs.Keyed
import DrivewayWatch.Proofs.Text.Search
import Mathlib.Data.List.Dedup

/-!
# Directories of copies

The name of a copy spells the digest of its content, so copies of photos with
different digests do not meet.  A directory that holds one copy of each of some
photos holds one more after a photo that it has not held is written, and is the
same directory after one is written that it holds: `HoldsCopies.write`.

The files of a directory have no order.  So two directories are the same if one
is a permutation of the other.
-/

namespace DrivewayWatch.ImageCopy

/-- The digest that the name of a copy spells. -/
def digestOf? (name : String) : Option Bytes :=
  (Text.before? ".jpg".toList name.toList).bind Hex.decode

@[simp]
theorem digestOf?_fileName (photo : Bytes) :
    digestOf? (fileName photo) = some (Sha256.digest photo) := by
  rw [digestOf?, fileName, String.toList_append, Text.before?_append,
    Option.bind_some, String.toList_ofList, Hex.decode_encode]

theorem digest_eq_of_fileName_eq {first second : Bytes}
    (sameName : fileName first = fileName second) :
    Sha256.digest first = Sha256.digest second := by
  have sameDigest := congrArg digestOf? sameName
  rwa [digestOf?_fileName, digestOf?_fileName, Option.some.injEq] at sameDigest

/-- A photo as a file, with the name that its content gives it. -/
def copyOf (photo : Bytes) : String × Bytes :=
  (fileName photo, photo)

theorem copyOf_injective : Function.Injective copyOf :=
  fun _ _ same => congrArg Prod.snd same

section Put

variable {directory : Directory} {name : String} {content : Bytes}

theorem mem_put_iff {file : String × Bytes} :
    file ∈ put directory name content ↔
      file ∈ directory ∧ file.1 ≠ name ∨ file = (name, content) := by
  simp [put]

theorem nodup_names_put (distinct : (directory.map Prod.fst).Nodup) :
    ((put directory name content).map Prod.fst).Nodup :=
  nodup_keys_replaced distinct (name, content)

/-- A file that is written again with its content changes nothing. -/
theorem put_perm_of_mem (distinct : (directory.map Prod.fst).Nodup)
    (member : (name, content) ∈ directory) :
    (put directory name content).Perm directory := by
  rw [List.perm_ext_iff_of_nodup (nodup_names_put distinct).of_map
    distinct.of_map]
  intro file
  rw [mem_put_iff]
  constructor
  · rintro (⟨inDirectory, -⟩ | rfl)
    · exact inDirectory
    · exact member
  · intro inDirectory
    by_cases sameName : file.1 = name
    · exact .inr (List.inj_on_of_nodup_map distinct inDirectory member sameName)
    · exact .inl ⟨inDirectory, sameName⟩

end Put

/-- A directory with exactly one copy of each of some photos. -/
structure HoldsCopies (directory : Directory) (photos : List Bytes) : Prop where
  nodup_names : (directory.map Prod.fst).Nodup
  mem_iff : ∀ file, file ∈ directory ↔ ∃ photo ∈ photos, copyOf photo = file

theorem holdsCopies_nil : HoldsCopies [] [] :=
  ⟨List.nodup_nil, by simp⟩

section Copies

variable {directory : Directory} {photos : List Bytes}

/-- As many files as there are different photos. -/
theorem HoldsCopies.perm (holds : HoldsCopies directory photos) :
    directory.Perm (photos.dedup.map copyOf) := by
  rw [List.perm_ext_iff_of_nodup holds.nodup_names.of_map
    ((List.nodup_dedup photos).map copyOf_injective)]
  intro file
  rw [holds.mem_iff, List.mem_map]
  simp only [List.mem_dedup]

/-- One more photo, with a digest that no other photo has. -/
theorem HoldsCopies.write (holds : HoldsCopies directory photos) {photo : Bytes}
    (apart : ∀ other ∈ photos,
      Sha256.digest other = Sha256.digest photo → other = photo) :
    HoldsCopies (write directory photo) (photos ++ [photo]) where
  nodup_names := nodup_names_put holds.nodup_names
  mem_iff := by
    intro file
    rw [ImageCopy.write, mem_put_iff, holds.mem_iff, ← copyOf]
    constructor
    · rintro (⟨⟨other, member, rfl⟩, -⟩ | rfl)
      · exact ⟨other, List.mem_append_left _ member, rfl⟩
      · exact ⟨photo, by simp, rfl⟩
    · rintro ⟨other, member, rfl⟩
      rcases List.mem_append.mp member with isOld | isNew
      -- An older file gives way only to a copy of the same photo.
      · by_cases sameName : fileName other = fileName photo
        · obtain rfl := apart other isOld (digest_eq_of_fileName_eq sameName)
          exact .inr rfl
        · exact .inl ⟨⟨other, isOld, rfl⟩, sameName⟩
      · obtain rfl := List.mem_singleton.mp isNew
        exact .inr rfl

end Copies

end DrivewayWatch.ImageCopy
