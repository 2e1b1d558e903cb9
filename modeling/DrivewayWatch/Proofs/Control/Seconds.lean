import DrivewayWatch.Control.Mute
import DrivewayWatch.Proofs.Json.Proper
import DrivewayWatch.Proofs.Number.Exact
import DrivewayWatch.Proofs.Number.Spelling
import DrivewayWatch.Proofs.Text.Blank

/-!
# Numbers of seconds

A value gives a number of seconds exactly if it is a number of which the integer
part fits a word of 64 bits, or a text that spells such an integer between blank
characters.  No larger number is taken for a smaller one.
-/

namespace DrivewayWatch.Control

open Json

/-- What it means that a value gives a number of seconds. -/
inductive Gives : Value → Int → Prop
  | integer {number : Number} {n : Int}
      (isInteger : number.integer? = some n) (isWord : Word.isSigned n = true) :
      Gives (.number number) n
  | real {x : Float} {number : Rat}
      (standsFor : (Binary64.ofFloat x).rational? = some number)
      (isBelow : |number| < 2 ^ 63) :
      Gives (.number (.real x)) (towardZero number)
  | text {front core back : List Char} {n : Int}
      (frontBlank : Text.IsBlank front) (denotes : Decimal.Denotes core n)
      (backBlank : Text.IsBlank back) (isWord : Word.isSigned n = true) :
      Gives (.string (String.ofList (front ++ core ++ back))) n

/-- The bound on a number is one on its integer part, and nothing is lost at
either end. -/
theorem abs_lt_iff_towardZero (number : Rat) :
    |number| < 2 ^ 63 ↔
      Word.least < towardZero number ∧ towardZero number ≤ Word.greatest := by
  have least : ((Word.least : Int) : Rat) = -2 ^ 63 := by
    norm_num [Word.least]
  have greatest : ((Word.greatest + 1 : Int) : Rat) = 2 ^ 63 := by
    norm_num [Word.greatest]
  rw [abs_lt, ← Int.lt_add_one_iff, towardZero]
  split
  · next nonneg =>
      have below : Word.least < ⌊number⌋ :=
        lt_of_lt_of_le (by decide) (Int.floor_nonneg.mpr nonneg)
      rw [Int.floor_lt, greatest]
      constructor
      · exact fun bounds => ⟨below, bounds.2⟩
      · exact fun bounds => ⟨by linarith, bounds.2⟩
  · next negative =>
      have nonpos : ⌈number⌉ ≤ 0 :=
        Int.ceil_nonpos.mpr (le_of_not_ge negative)
      have above : ⌈number⌉ < Word.greatest + 1 :=
        lt_of_le_of_lt nonpos (by decide)
      rw [Int.lt_ceil, least]
      constructor
      · exact fun bounds => ⟨bounds.1, above⟩
      · exact fun bounds => ⟨bounds.1, by linarith⟩

section Numbers

variable {number : Number} {n : Int}

theorem secondsOfNumber_real_eq_some_iff {x : Float} :
    secondsOfNumber (.real x) = some n ↔ Gives (.number (.real x)) n := by
  have atBounds : secondsOfNumber (.real x) =
      ((Binary64.ofFloat x).rational?.map towardZero).filter fun n =>
        Word.least < n ∧ n ≤ Word.greatest := by
    rw [secondsOfNumber, truncateFloat?, Binary64.truncate?_eq]
  rw [atBounds, Option.filter_eq_some_iff, Option.map_eq_some_iff,
    decide_eq_true_eq]
  constructor
  · rintro ⟨⟨number, standsFor, rfl⟩, inside⟩
    exact .real standsFor ((abs_lt_iff_towardZero number).mpr inside)
  · intro gives
    cases gives with
    | integer isInteger => cases isInteger
    | real standsFor isBelow =>
        exact ⟨⟨_, standsFor, rfl⟩, (abs_lt_iff_towardZero _).mp isBelow⟩

theorem secondsOfNumber_integer_eq_some_iff {integer : Int}
    (isProper : number.IsProper) (isInteger : number.integer? = some integer) :
    secondsOfNumber number = some n ↔
      integer = n ∧ Word.isSigned n = true := by
  cases number with
  | natural natural =>
      obtain rfl := Option.some.inj isInteger
      rw [secondsOfNumber, Option.ite_none_right_eq_some, Option.some.injEq]
      constructor
      · rintro ⟨isWord, rfl⟩
        exact ⟨rfl, isWord⟩
      · rintro ⟨rfl, isWord⟩
        exact ⟨isWord, rfl⟩
  | negative negative =>
      obtain rfl := Option.some.inj isInteger
      have isWord : Word.isSigned negative = true :=
        Word.isSigned_iff.mpr ⟨isProper.1, isProper.2.le.trans (by decide)⟩
      rw [secondsOfNumber, Option.some.injEq]
      constructor
      · rintro rfl
        exact ⟨rfl, isWord⟩
      · exact And.left
  | real x => cases isInteger

theorem secondsOfNumber_eq_some_iff (isProper : number.IsProper) :
    secondsOfNumber number = some n ↔ Gives (.number number) n := by
  cases whole : number.integer? with
  | some integer =>
      rw [secondsOfNumber_integer_eq_some_iff isProper whole]
      constructor
      · rintro ⟨rfl, isWord⟩
        exact .integer whole isWord
      · intro gives
        cases gives with
        | integer isInteger isWord =>
            exact ⟨Option.some.inj (whole.symm.trans isInteger), isWord⟩
        | real => cases whole
  | none =>
      cases number with
      | natural => cases whole
      | negative => cases whole
      | real x => exact secondsOfNumber_real_eq_some_iff

end Numbers

/-- The blanks around a text that spells an integer are found by trimming: they
are what it takes away. -/
theorem int64?_trim_eq_some_iff {content : String} {n : Int} :
    Decimal.int64? (Text.trim content.toList) = some n ↔
      Gives (.string content) n := by
  rw [Decimal.int64?_eq_some_iff]
  constructor
  · rintro ⟨denotes, isWord⟩
    obtain ⟨front, back, split, frontBlank, backBlank⟩ :=
      Text.exists_trim content.toList
    rw [← String.ofList_toList (s := content), split]
    exact .text frontBlank denotes backBlank isWord
  · intro gives
    cases gives with
    | text frontBlank denotes backBlank isWord =>
        rw [String.toList_ofList, Text.trim_append frontBlank _ backBlank,
          Text.trim_eq_self denotes.isBlank_eq_false]
        exact ⟨denotes, isWord⟩

theorem seconds?_eq_some_iff {value : Value} (isProper : value.IsProper)
    {n : Int} : seconds? value = some n ↔ Gives value n := by
  cases isProper with
  | number isProper => exact secondsOfNumber_eq_some_iff isProper
  | string content => exact int64?_trim_eq_some_iff
  | _ =>
      constructor
      · intro given
        cases given
      · intro gives
        cases gives

/-- What a value gives is a word of 64 bits. -/
theorem Gives.isWord {value : Value} {n : Int} (gives : Gives value n) :
    Word.isSigned n = true := by
  cases gives with
  | integer _ isWord => exact isWord
  | real _ isBelow =>
      obtain ⟨above, below⟩ := (abs_lt_iff_towardZero _).mp isBelow
      exact Word.isSigned_iff.mpr ⟨above.le, below⟩
  | text _ _ _ isWord => exact isWord

/-- A value that was read, or a part of one, gives the seconds that `Gives` says
and no others.  They fit a word of 64 bits, and an integer that does so is given
both by itself and by its notation between blanks. -/
theorem seconds_are_those_given :
    (∀ text (value : Value), Value.read? text = some value → value.IsProper) ∧
      (∀ (object : Value) key value, object.IsProper →
        object.field? key = some value → value.IsProper) ∧
      (∀ value : Value, value.IsProper → ∀ n,
        (seconds? value = some n ↔ Gives value n) ∧
          (seconds? value = some n → Word.isSigned n = true)) ∧
      ∀ n, Word.isSigned n = true →
        (∀ number : Number, number.IsProper → number.integer? = some n →
          seconds? (.number number) = some n) ∧
        ∀ front back, Text.IsBlank front → Text.IsBlank back →
          seconds? (.string
            (String.ofList (front ++ Decimal.ofInt n ++ back))) = some n := by
  refine ⟨fun _ _ => Value.isProper_of_read?,
    fun _ _ _ isProper => isProper.of_field?, ?_, ?_⟩
  · intro value isProper n
    have given := seconds?_eq_some_iff (n := n) isProper
    exact ⟨given, fun found => (given.mp found).isWord⟩
  · intro n isWord
    constructor
    · intro number isProper isInteger
      exact (seconds?_eq_some_iff (.number isProper)).mpr
        (.integer isInteger isWord)
    · intro front back frontBlank backBlank
      exact (seconds?_eq_some_iff (.string _)).mpr
        (.text frontBlank (Decimal.denotes_ofInt n) backBlank isWord)

theorem seconds_are_those_given_of_least :
    seconds? (.number (.negative Word.least)) = some Word.least ∧
      seconds? (.string
        (String.ofList ([' '] ++ Decimal.ofInt Word.least ++ ['\t']))) =
          some Word.least := by
  obtain ⟨-, -, -, words⟩ := seconds_are_those_given
  obtain ⟨itself, written⟩ := words Word.least rfl
  refine ⟨itself _ ⟨le_rfl, by decide⟩ rfl, written _ _ ?_ ?_⟩ <;>
    exact List.forall_mem_singleton.mpr rfl

end DrivewayWatch.Control
