import DrivewayWatch.Notification
import DrivewayWatch.Proofs.Tracking.Run

/-!
# Words of an arrival

Where notifications are only printed, the classification is capitalized and the
event is put behind it; the title of a message is both of them capitalized
together.  The two agree exactly for events that lowercasing each character
leaves unchanged, and so they do for the event of the tracker.  All of this
holds of any mappings of characters that leave a space as it is.
-/

namespace DrivewayWatch

/-- Mappings of single characters to upper and to lower case.  A space has no
case. -/
structure CaseMapping where
  upper : Char → List Char
  lower : Char → List Char
  upper_space : upper ' ' = [' ']
  lower_space : lower ' ' = [' ']

namespace CaseMapping

/-- The full mappings of Unicode. -/
def unicode : CaseMapping where
  upper := Text.CaseMap.upper
  lower := Text.CaseMap.lower
  upper_space := rfl
  lower_space := rfl

variable (mapping : CaseMapping)

/-- The first character in upper case and all others in lower case. -/
def capitalize : List Char → List Char
  | [] => []
  | first :: rest => mapping.upper first ++ rest.flatMap mapping.lower

/-- Whether lowercasing each character leaves a text unchanged. -/
def IsLowercase (text : List Char) : Prop :=
  text.flatMap mapping.lower = text

instance (text : List Char) : Decidable (mapping.IsLowercase text) :=
  inferInstanceAs (Decidable (_ = _))

theorem capitalize_unicode (text : List Char) :
    unicode.capitalize text = Text.CaseMap.capitalize text := by
  cases text <;> rfl

/-- A space ends what is capitalized, and the text behind it is lowercased.  If
there is nothing before it, then it is itself the first character. -/
theorem capitalize_append_space (front back : List Char) :
    mapping.capitalize (front ++ ' ' :: back) =
      mapping.capitalize front ++ ' ' :: back.flatMap mapping.lower := by
  cases front with
  | nil => simp [capitalize, mapping.upper_space]
  | cons first front => simp [capitalize, mapping.lower_space]

theorem capitalize_append_space_eq_iff (front back : List Char) :
    mapping.capitalize front ++ ' ' :: back =
        mapping.capitalize (front ++ ' ' :: back) ↔
      mapping.IsLowercase back := by
  rw [capitalize_append_space, List.append_cancel_left_eq, List.cons.injEq,
    IsLowercase, eq_comm (a := back)]
  simp

end CaseMapping

/-- What is printed before the words of an arrival. -/
def printedHead (time : Instant) : String :=
  "***NOTIFICATION*** at " ++ time.text ++ ": "

namespace Arrival

variable {T : Type}

theorem announcement_eq_title_iff (arrival : Arrival T) :
    arrival.announcement = arrival.title ↔
      CaseMapping.unicode.IsLowercase arrival.event.toList := by
  rw [← CaseMapping.capitalize_append_space_eq_iff CaseMapping.unicode
    arrival.classification.toList, ← String.toList_inj]
  simp [announcement, title, Text.CaseMap.capitalized,
    CaseMapping.capitalize_unicode]

/-- A description that is empty is none. -/
theorem message_eq_title {arrival : Arrival T}
    (plain : arrival.description = none ∨ arrival.description = some "") :
    arrival.message = arrival.title := by
  rcases plain with isNone | isEmpty
  · rw [message, isNone]
  · rw [message, isEmpty]
    rfl

theorem printedLine_eq_iff (arrival : Arrival Instant) (words : String) :
    arrival.printedLine = printedHead arrival.time ++ words ↔
      arrival.announcement = words :=
  String.append_right_inj (printedHead arrival.time)

end Arrival

theorem isLowercase_arrivalEvent :
    CaseMapping.unicode.IsLowercase Tracker.arrivalEvent.toList := by
  decide +kernel

/-- The words that are printed for an arrival and those that are sent.  By any
mapping of characters, capitalizing a classification and putting an event behind
it is the same as capitalizing both together, exactly if the event is lowercase.
So an arrival with such an event is printed with the words of its title, which
are those of its message unless it has a description.  What the tracker announces
is always printed as it is sent. -/
theorem printed_words_are_those_of_messages {K : Type} [Scalar K] :
    (∀ (mapping : CaseMapping) (classification event : List Char),
      mapping.capitalize classification ++ ' ' :: event =
          mapping.capitalize (classification ++ ' ' :: event) ↔
        mapping.IsLowercase event) ∧
    (∀ arrival : Arrival Instant,
      (arrival.printedLine = printedHead arrival.time ++ arrival.title ↔
        CaseMapping.unicode.IsLowercase arrival.event.toList) ∧
      (arrival.description = none ∨ arrival.description = some "" →
        (arrival.printedLine = printedHead arrival.time ++ arrival.message ↔
          CaseMapping.unicode.IsLowercase arrival.event.toList))) ∧
    ∀ (settings : TrackerSettings K) (criteria : Criteria K Instant)
      (encode : Frame → Option Bytes) (tracks : List (Track K Instant))
      (detections : List (Detection K Instant)),
      ∀ arrival ∈ Tracker.arrivals
          (Tracker.run settings criteria encode tracks detections),
        arrival.printedLine = printedHead arrival.time ++ arrival.title ∧
        arrival.printedLine = printedHead arrival.time ++ arrival.message := by
  have asTitle : ∀ arrival : Arrival Instant,
      arrival.printedLine = printedHead arrival.time ++ arrival.title ↔
        CaseMapping.unicode.IsLowercase arrival.event.toList := by
    intro arrival
    rw [arrival.printedLine_eq_iff, arrival.announcement_eq_title_iff]
  refine ⟨CaseMapping.capitalize_append_space_eq_iff, ?_, ?_⟩
  · intro arrival
    refine ⟨asTitle arrival, fun plain => ?_⟩
    rw [Arrival.message_eq_title plain, asTitle]
  · intro settings criteria encode tracks detections arrival member
    obtain ⟨track, rfl⟩ := Tracker.exists_announce_of_mem_arrivals settings
      criteria encode member
    have printed := (asTitle (Tracker.announce encode track)).mpr
      isLowercase_arrivalEvent
    rw [Arrival.message_eq_title (.inl rfl)]
    exact ⟨printed, printed⟩

/-- An arrival whose classification begins with a ligature, which is two letters
in upper case. -/
def finch : Arrival Instant :=
  ⟨⟨1714552200, 0⟩, "\ufb01nch", "arrived in driveway", "e0", none, none⟩

theorem printed_words_are_those_of_messages_of_finch :
    CaseMapping.unicode.IsLowercase finch.event.toList ∧
      finch.description = none ∧
      finch.message = "FInch arrived in driveway" ∧
      finch.printedLine = "***NOTIFICATION*** at 2024-05-01 08:30:00 UTC: " ++
        "FInch arrived in driveway" := by
  have isLowercase : CaseMapping.unicode.IsLowercase finch.event.toList := by
    decide +kernel
  have isPlain : finch.description = none := rfl
  have words : finch.message = "FInch arrived in driveway" := by
    decide +kernel
  have head : printedHead finch.time =
      "***NOTIFICATION*** at 2024-05-01 08:30:00 UTC: " := by
    decide +kernel
  obtain ⟨-, ofArrival, -⟩ := printed_words_are_those_of_messages (K := Float)
  have printed := ((ofArrival finch).2 (.inl isPlain)).mpr isLowercase
  rw [head, words] at printed
  exact ⟨isLowercase, isPlain, words, printed⟩

end DrivewayWatch
