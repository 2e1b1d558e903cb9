import DrivewayWatch.Ntfy.Message
import DrivewayWatch.Proofs.Control.Sequence
import DrivewayWatch.Proofs.Json.Tokens
import DrivewayWatch.Proofs.Text.Search
import DrivewayWatch.Proofs.Text.Utf8

/-!
# Mute buttons

A message carries buttons, and a button carries a command between quotes.  The
control server reads from that text the key and the seconds that the button was
made of, so pressing it does what its label says, unless the text is longer than
the server takes.  The buttons of a message are joined by a separator that none
of them has in it, so they come apart as they were put together.
-/

namespace DrivewayWatch

/-- An id of letters and digits, like those that are generated. -/
def IsId (text : String) : Prop :=
  text ≠ "" ∧ ∀ c ∈ text.toList, c.isAlphanum = true

instance (text : String) : Decidable (IsId text) :=
  decidable_of_iff (text ≠ "" ∧ text.toList.all Char.isAlphanum = true)
    (and_congr_right fun _ => List.all_eq_true)

namespace Ntfy

/-- The characters at which the text of a button or of a header is cut. -/
def IsCut (c : Char) : Prop :=
  c = '\'' ∨ c = ';'

/-- An address without a character at which a text is cut. -/
def IsClean (address : String) : Prop :=
  ∀ c, IsCut c → c ∉ address.toList

section Cutting

variable {c : Char}

theorem IsCut.not_mem_ofInt (isCut : IsCut c) (n : Int) :
    c ∉ Decimal.ofInt n := by
  rcases isCut with rfl | rfl
  · exact Decimal.not_mem_ofInt rfl (by decide) n
  · exact Decimal.not_mem_ofInt rfl (by decide) n

theorem IsCut.not_mem_text (isCut : IsCut c) (n : Int) :
    c ∉ (Decimal.text n).toList := by
  rw [Decimal.text, String.toList_ofList]
  exact isCut.not_mem_ofInt n

theorem IsCut.not_mem_id (isCut : IsCut c) {key : String} (isId : IsId key) :
    c ∉ key.toList := by
  intro member
  have isAlphanum := isId.2 c member
  rcases isCut with rfl | rfl <;> cases isAlphanum

theorem IsCut.not_mem_muteLabel (isCut : IsCut c) (seconds : Int) :
    c ∉ (muteLabel seconds).toList := by
  have inHours := isCut.not_mem_text (seconds.tdiv 3600)
  have inMinutes := isCut.not_mem_text ((seconds.tmod 3600).tdiv 60)
  have inWhole := isCut.not_mem_text (seconds.tdiv 60)
  rcases isCut with rfl | rfl
  all_goals
    simp only [muteLabel, timeLabel]
    split_ifs
    all_goals simp [*]

/-- The text of a command has no character at which a button is cut. -/
theorem IsCut.not_mem_muteCommand (isCut : IsCut c) (seconds : Int)
    {key : String} (isId : IsId key) :
    c ∉ (muteCommand seconds key).toList := by
  have inSeconds := isCut.not_mem_text seconds
  have inKey := isCut.not_mem_id isId
  rcases isCut with rfl | rfl
  all_goals simp [muteCommand, inSeconds, inKey]

end Cutting

/-- The text between the quotes of a button, behind `body=`. -/
def bodyOf? (action : String) : Option String :=
  match Text.pieces '\'' [] action.toList with
  | [front, body, _] =>
      if Text.endsWith front "body=".toList then some (String.ofList body)
      else none
  | _ => none

/-- A button carries the command that it was made of. -/
theorem bodyOf?_muteAction {baseUrl : String} (isClean : IsClean baseUrl)
    (seconds : Int) {key : String} (isId : IsId key) :
    bodyOf? (muteAction baseUrl seconds key) =
      some (muteCommand seconds key) := by
  have isCut : IsCut '\'' := .inl rfl
  let front : List Char := "http, ".toList ++ (muteLabel seconds).toList ++
    ", ".toList ++ baseUrl.toList ++ "/mute, body=".toList
  let rest : List Char :=
    ", headers.content-type=application/json, clear=true".toList
  have joined : (muteAction baseUrl seconds key).toList =
      ['\''].intercalate [front, (muteCommand seconds key).toList, rest] := by
    simp [muteAction, front, rest]
  have apart : ∀ part ∈ [front, (muteCommand seconds key).toList, rest],
      '\'' ∉ part := by
    have inLabel := isCut.not_mem_muteLabel seconds
    have inCommand := isCut.not_mem_muteCommand seconds isId
    have inAddress := isClean _ isCut
    simp [front, rest, inLabel, inCommand, inAddress]
  have ends : Text.endsWith front "body=".toList = true := by
    simp [front, Text.endsWith, Text.startsWith, Text.after?]
  rw [bodyOf?, joined, Text.pieces_intercalate (by simp) apart]
  simp only [ends, if_true, String.ofList_toList]

theorem not_mem_muteAction {baseUrl : String} (isClean : IsClean baseUrl)
    (seconds : Int) {key : String} (isId : IsId key) :
    ';' ∉ (muteAction baseUrl seconds key).toList := by
  have isCut : IsCut ';' := .inr rfl
  have inLabel := isCut.not_mem_muteLabel seconds
  have inCommand := isCut.not_mem_muteCommand seconds isId
  have inAddress := isClean _ isCut
  simp [muteAction, inLabel, inCommand, inAddress]

/-- The buttons in a header: its pieces between semicolons with a blank. -/
def buttonsOf (header : String) : List String :=
  (Text.pieces ';' [' '] header.toList).map String.ofList

/-- Buttons come apart as they were put together. -/
theorem buttonsOf_muteActions {baseUrl : String} (isClean : IsClean baseUrl)
    {presets : List Int} (nonempty : presets ≠ []) {key : String}
    (isId : IsId key) :
    buttonsOf (muteActions baseUrl presets key) =
      presets.map fun seconds => muteAction baseUrl seconds key := by
  have apart : ∀ part ∈ presets.map fun seconds =>
      (muteAction baseUrl seconds key).toList, ';' ∉ part := by
    intro part member
    obtain ⟨seconds, -, rfl⟩ := List.mem_map.mp member
    exact not_mem_muteAction isClean seconds isId
  have joined : (muteActions baseUrl presets key).toList =
      (';' :: [' ']).intercalate (presets.map fun seconds =>
        (muteAction baseUrl seconds key).toList) := by
    rw [muteActions, String.toList_intercalate, List.map_map]
    rfl
  rw [buttonsOf, joined, Text.pieces_intercalate (by simpa) apart,
    List.map_map]
  simp

theorem buttonsOf_muteAction {baseUrl : String} (isClean : IsClean baseUrl)
    (seconds : Int) {key : String} (isId : IsId key) :
    buttonsOf (muteAction baseUrl seconds key) =
      [muteAction baseUrl seconds key] := by
  have alone := buttonsOf_muteActions isClean
    (List.cons_ne_nil seconds []) isId
  simpa [muteActions] using alone

variable {K T : Type}

/-- The key that the buttons of a notification name. -/
def keyOf : Notification T → String
  | .arrival arrival => arrival.id
  | .feedback (.muted key _) => key
  | .feedback (.unmuted key) => key

/-- The buttons of a notification, each by its label and its seconds. -/
def offered : Notification T → List (String × Int)
  | .feedback (.muted _ (some seconds)) =>
      if 3600 < seconds then [("Unmute", 0)]
      else [("Unmute", 0), ("Mute 4h", 14400), ("Mute 12h", 43200)]
  | .feedback (.muted _ none) =>
      [("Unmute", 0), ("Mute 4h", 14400), ("Mute 12h", 43200)]
  | _ => [("Mute 10m", 600), ("Mute 1h", 3600), ("Mute 4h", 14400)]

theorem muteLabel_of_offered (notification : Notification T) :
    ∀ button ∈ offered notification, muteLabel button.2 = button.1 := by
  unfold offered
  split
  · split
    · decide +kernel
    · decide +kernel
  · decide +kernel
  · decide +kernel

/-- The headers in which there are buttons. -/
def actionHeaders (headers : List Header) : List Header :=
  headers.filter fun header => header.1 = "Actions"

theorem actionHeaders_append (first second : List Header) :
    actionHeaders (first ++ second) =
      actionHeaders first ++ actionHeaders second :=
  List.filter_append _ _

theorem actionHeaders_tokenHeaders (settings : Settings K) :
    actionHeaders (tokenHeaders settings) = [] := by
  unfold tokenHeaders
  split
  · split <;> rfl
  · rfl

theorem actionHeaders_pictureHeaders (link : Option PictureLink)
    (url : String) : actionHeaders (pictureHeaders link url) = [] := by
  rcases link with _ | _ | _ <;> rfl

theorem actionHeaders_arrivalHeaders (settings : Settings K)
    (arrival : Arrival T) :
    actionHeaders (arrivalHeaders settings arrival) =
      [("Actions", muteActions settings.baseUrl [600, 3600, 14400]
        arrival.id)] := by
  unfold arrivalHeaders
  rw [actionHeaders_append]
  cases arrival.photo with
  | none => rfl
  | some photo =>
      simp only [actionHeaders_pictureHeaders]
      rfl

/-- A message has the headers of buttons that are made for its notification. -/
theorem actionHeaders_headers (settings : Settings K)
    (notification : Notification T) :
    actionHeaders (headers settings notification) =
      match notification with
      | .arrival arrival => actionHeaders (arrivalHeaders settings arrival)
      | .feedback feedback =>
          actionHeaders (feedbackHeaders settings feedback) := by
  unfold headers
  rw [actionHeaders_append, actionHeaders_tokenHeaders, List.append_nil]
  cases notification <;> rfl

/-- A message has one header of buttons, with those that are offered. -/
theorem buttons_of_headers (settings : Settings K)
    (isClean : IsClean settings.baseUrl) (notification : Notification T)
    (isId : IsId (keyOf notification)) :
    ∃ actions,
      actionHeaders (headers settings notification) =
        [("Actions", actions)] ∧
      buttonsOf actions = (offered notification).map fun button =>
        muteAction settings.baseUrl button.2 (keyOf notification) := by
  rw [actionHeaders_headers]
  match notification, isId with
  | .arrival arrival, isId =>
      exact ⟨_, actionHeaders_arrivalHeaders settings arrival,
        buttonsOf_muteActions isClean (by decide) isId⟩
  | .feedback (.unmuted key), isId =>
      exact ⟨_, rfl, buttonsOf_muteActions isClean (by decide) isId⟩
  | .feedback (.muted key none), isId =>
      exact ⟨_, rfl, buttonsOf_muteActions isClean (by decide) isId⟩
  | .feedback (.muted key (some seconds)), isId =>
      by_cases isLong : 3600 < seconds
      · refine ⟨muteAction settings.baseUrl 0 key, ?_, ?_⟩
        · simp [actionHeaders, feedbackHeaders, isLongMute, longMute, isLong]
        · simpa [offered, isLong, keyOf] using buttonsOf_muteAction isClean 0 isId
      · refine ⟨muteActions settings.baseUrl [0, 14400, 43200] key, ?_, ?_⟩
        · simp [actionHeaders, feedbackHeaders, isLongMute, longMute, isLong,
            extensionPresets]
        · simpa [offered, isLong, keyOf] using
            buttonsOf_muteActions isClean (List.cons_ne_nil 0 [14400, 43200])
              isId

end Ntfy

namespace Control

open Ntfy

section Reading

open Json Json.Token

theorem isPlain_of_isId {key : String} (isId : IsId key) :
    ∀ c ∈ key.toList, IsPlain c := by
  intro c member
  have isAlphanum := isId.2 c member
  refine ⟨?_, ?_, ?_⟩
  · rintro rfl
    cases isAlphanum
  · rintro rfl
    cases isAlphanum
  · by_contra isControl
    have noLetter : ∀ n < 0x20, (Char.ofNat n).isAlphanum = false := by decide
    have isNone := noLetter c.toNat (Nat.lt_of_not_le isControl)
    rw [Char.ofNat_toNat, isAlphanum] at isNone
    cases isNone

theorem scans_opening :
    Scans "\x7b\"s\": ".toList [.openObject, .string (some "s"), .colon] := by
  intro kept
  rfl

theorem scans_middle :
    Scans " \"key\": ".toList [.string (some "key"), .colon] := by
  intro kept
  rfl

theorem scans_muteCommand (seconds : Int) {key : String} (isId : IsId key) :
    Scans (muteCommand seconds key).toList
      [.openObject, .string (some "s"), .colon,
        .scalar (.number (.ofInt seconds)), .comma,
        .string (some "key"), .colon, .string (some key), .closeObject] := by
  have number : Scans (Decimal.ofInt seconds ++ [','])
      [.scalar (.number (.ofInt seconds)), .comma] :=
    scans_word_mark (Decimal.ofInt_ne_nil seconds)
      (fun _ member => isWordChar_of_mem_ofInt member) (word?_ofInt seconds) rfl
  have keyText : Scans ('"' :: (key.toList ++ ['"'])) [.string (some key)] := by
    have scans := scans_string (isPlain_of_isId isId)
    rwa [String.ofList_toList] at scans
  have closing : Scans ['\x7d'] [.closeObject] := scans_mark rfl
  have text : (muteCommand seconds key).toList =
      "\x7b\"s\": ".toList ++ ((Decimal.ofInt seconds ++ [',']) ++
        (" \"key\": ".toList ++ (('"' :: (key.toList ++ ['"'])) ++ ['\x7d']))) := by
    simp [muteCommand, Decimal.text]
  rw [text]
  exact scans_opening.append <| number.append <| scans_middle.append <|
    keyText.append closing

theorem value?_muteCommand {seconds : Int}
    (isWord : Word.isSigned seconds = true) {key : String} (isId : IsId key) :
    Value.read? (muteCommand seconds key).toList =
      some (.object [
        ("s", .number (if seconds < 0 then .negative seconds
          else .natural seconds.toNat)),
        ("key", .string key)]) := by
  have document : Document.read? (muteCommand seconds key).toList =
      some (.object [(some "s", .number (.ofInt seconds)),
        (some "key", .string (some key))]) := by
    rw [Document.read?, scan?_eq_some_of_scans (scans_muteCommand seconds isId)]
    rfl
  simp [Value.read?, document, Document.value?, nestingLimit,
    Document.valueWithin?, Document.membersWithin?, Numeral.value?_ofInt isWord,
    Value.setMember]

theorem secondsOfNumber_ofInt {seconds : Int}
    (isWord : Word.isSigned seconds = true) :
    secondsOfNumber (if seconds < 0 then .negative seconds
      else .natural seconds.toNat) = some seconds := by
  by_cases negative : seconds < 0
  · rw [if_pos negative]
    rfl
  · have nonneg : (seconds.toNat : Int) = seconds := by omega
    rw [if_neg negative, secondsOfNumber, nonneg, if_pos isWord]

/-- What a button is made of is what the server reads from it. -/
theorem spells_muteCommand {seconds : Int}
    (isWord : Word.isSigned seconds = true) {key : String} (isId : IsId key) :
    MuteCommand.Spells (Text.Utf8.bytesOf (muteCommand seconds key))
      ⟨key, seconds⟩ := by
  rw [MuteCommand.Spells, Text.Utf8.decode_bytesOf, Option.bind_some,
    value?_muteCommand isWord isId]
  refine ⟨_, rfl, ?_, ?_⟩
  · exact MuteCommand.keyOf_eq_ok rfl isId.1
  · exact MuteCommand.secondsOf_eq_ok ⟨_, rfl, secondsOfNumber_ofInt isWord⟩

end Reading

/-- A request that posts a body to where commands are taken.  If it announces
the length of the body, then it announces the right one. -/
structure IsPosted (request : Request) (body : Bytes) : Prop where
  method : request.method = "POST"
  path : pathOf request.target = "/mute".toList
  content : request.body = body
  announced : ∀ length, announcedLength? request = some length →
    length = body.length

/-- A request that posts a body and announces nothing. -/
def post (body : Bytes) : Request :=
  ⟨"POST", "/mute", [], body⟩

theorem isPosted_post (body : Bytes) : IsPosted (post body) body where
  method := rfl
  path := by
    change pathOf "/mute" = "/mute".toList
    decide +kernel
  content := rfl
  announced := by
    intro length found
    cases found

/-- The server once it has counted a request for a command. -/
def counted (state : State Instant) (status : Nat) : State Instant :=
  { state with counts := state.counts ++ [.request "POST" "/mute" status] }

section Posting

variable {state : State Instant} {now : Instant} {request : Request}
  {body : Bytes}

theorem answer_of_isPosted (isPosted : IsPosted request body) :
    answer state now request =
      if (announcedLength? request).any (bodyLimit < ·) then
        (counted state 413, .of 413 (.text "length limit exceeded"))
      else
        (counted (answerMute state now request).1
          (answerMute state now request).2.status,
          (answerMute state now request).2) := by
  obtain ⟨method, path, -, -⟩ := isPosted
  have route : Route.ofPath? state.hasMetrics "/mute".toList = some .mute := by
    simp [Route.ofPath?]
  have label : countedPath "/mute".toList = "/mute" := rfl
  have isCounted : request.method ≠ "OPTIONS" := by simp [method]
  rw [answer, if_neg isCounted, answerCounted, path, route, method, label]
  by_cases tooLong : (announcedLength? request).any (bodyLimit < ·) = true
  · rw [if_pos tooLong, if_pos tooLong]
    rfl
  · rw [if_neg tooLong, if_neg tooLong]
    rfl

/-- A body within the limit reaches the commands. -/
theorem answer_of_short (isPosted : IsPosted request body)
    (short : body.length ≤ bodyLimit) :
    answer state now request =
      (counted (obey state now body).1 (obey state now body).2.status,
        (obey state now body).2) := by
  rw [answer_of_isPosted isPosted]
  obtain ⟨-, -, rfl, announced⟩ := isPosted
  have isObeyed : answerMute state now request =
      obey state now request.body := by
    rw [answerMute, if_neg]
    cases found : announcedLength? request with
    | none => simpa using short
    | some length =>
        obtain rfl := announced _ found
        simpa using short
  rw [if_neg, isObeyed]
  cases found : announcedLength? request with
  | none => simp
  | some length =>
      obtain rfl := announced _ found
      simpa using short

/-- A body beyond the limit is refused and changes nothing. -/
theorem answer_of_long (isPosted : IsPosted request body)
    (long : bodyLimit < body.length) :
    (answer state now request).2.status = 413 ∧
      (answer state now request).1 = counted state 413 := by
  rw [answer_of_isPosted isPosted]
  obtain ⟨-, -, rfl, announced⟩ := isPosted
  cases found : announcedLength? request with
  | none =>
      have isCut : answerMute state now request =
          (state, .of 413 (.text
            "Failed to buffer the request body: length limit exceeded")) := by
        rw [answerMute, if_pos]
        simpa [found] using long
      rw [isCut]
      exact ⟨rfl, rfl⟩
  | some length =>
      obtain rfl := announced _ found
      rw [if_pos (by simpa using long)]
      exact ⟨rfl, rfl⟩

end Posting

/-- Buttons and the server agree.  The text that a button carries is obeyed as
the command that the button was made of; posted to the server, it is obeyed if
it is within the limit of what the server takes, and else refused.  The buttons
in the headers of a message are those that are offered for its notification. -/
theorem mute_buttons_agree_with_server {key : String} (isId : IsId key) :
    (∀ (state : State Instant) (now : Instant) (seconds : Int)
        (baseUrl : String), state.photos.contains key = true →
      Word.isSigned seconds = true →
      (seconds < 1 ∨ (now.later (.seconds seconds)).isKept = true) →
      IsClean baseUrl →
      ∃ command, bodyOf? (muteAction baseUrl seconds key) = some command ∧
        let body := Text.Utf8.bytesOf command
        let next : State Instant :=
          push { state with
            mute := ⟨some (MuteCommand.deadlineAt ⟨key, seconds⟩ now)⟩ }
            (MuteCommand.feedback ⟨key, seconds⟩)
        obey state now body = (next, .ok) ∧
        (state.isHeard = true → next =
          { state with
            mute := ⟨some (MuteCommand.deadlineAt ⟨key, seconds⟩ now)⟩
            queue := state.queue ++ [MuteCommand.feedback ⟨key, seconds⟩] }) ∧
        ∀ request, IsPosted request body →
          (body.length ≤ bodyLimit →
            answer state now request = (counted next 200, .ok)) ∧
          (bodyLimit < body.length →
            (answer state now request).2.status = 413 ∧
            (answer state now request).1 = counted state 413)) ∧
    ∀ (settings : Ntfy.Settings Float) (notification : Notification Instant),
      keyOf notification = key → IsClean settings.baseUrl →
      (∀ button ∈ offered notification, muteLabel button.2 = button.1) ∧
      ∃ actions,
        actionHeaders (headers settings notification) =
          [("Actions", actions)] ∧
        buttonsOf actions = (offered notification).map fun button =>
          muteAction settings.baseUrl button.2 key := by
  constructor
  · intro state now seconds baseUrl known isWord named isClean
    have obeyed := obey_of_spells (spells_muteCommand isWord isId) known named
    refine ⟨muteCommand seconds key, bodyOf?_muteAction isClean seconds isId,
      obeyed, fun isHeard => push_of_isHeard isHeard _ _, ?_⟩
    intro request isPosted
    constructor
    · intro short
      rw [answer_of_short isPosted short, obeyed]
      rfl
    · exact answer_of_long isPosted
  · rintro settings notification rfl isClean
    exact ⟨muteLabel_of_offered notification,
      buttons_of_headers settings isClean notification isId⟩

/-- The first button of an arrival mutes for ten minutes. -/
theorem mute_buttons_agree_with_server_of_photo :
    IsId "abc" ∧
    bodyOf? (muteAction "https://dm.example.com" 600 "abc") =
      some "\x7b\"s\": 600, \"key\": \"abc\"\x7d" ∧
    (answer (withPhoto none ⟨50, 0⟩) ⟨100, 0⟩ (post (Text.Utf8.bytesOf
      "\x7b\"s\": 600, \"key\": \"abc\"\x7d"))).1.mute =
        ⟨some ⟨700, 0⟩⟩ := by
  have isId : IsId "abc" := by decide +kernel
  have isClean : IsClean "https://dm.example.com" := by
    rintro c (rfl | rfl) <;> decide +kernel
  have text : bodyOf? (muteAction "https://dm.example.com" 600 "abc") =
      some "\x7b\"s\": 600, \"key\": \"abc\"\x7d" := by
    decide +kernel
  obtain ⟨command, isBody, -, -, answered⟩ :=
    (mute_buttons_agree_with_server isId).1 (withPhoto none ⟨50, 0⟩) ⟨100, 0⟩
      600 "https://dm.example.com" (by decide +kernel) (by decide)
      (.inr (by decide +kernel)) isClean
  obtain rfl := Option.some.inj (isBody.symm.trans text)
  have short : (Text.Utf8.bytesOf
      "\x7b\"s\": 600, \"key\": \"abc\"\x7d").length ≤ bodyLimit := by
    decide +kernel
  refine ⟨isId, text, ?_⟩
  rw [(answered _ (isPosted_post _)).1 short]
  decide +kernel

/-- A server that knows one photo, under any key. -/
def knowing (key : String) : State Instant :=
  { withPhoto none ⟨50, 0⟩ with
    photos := PhotoStore.empty.insert ⟨key, ⟨86450, 0⟩, none⟩ }

theorem contains_knowing (key : String) :
    (knowing key).photos.contains key = true := by
  simp [knowing, PhotoStore.contains, PhotoStore.get?, PhotoStore.insert,
    PhotoStore.empty]

/-- A key of so many letters. -/
def keyOfLength (length : Nat) : String :=
  String.ofList (List.replicate length 'a')

theorem isId_keyOfLength {length : Nat} (isPositive : 0 < length) :
    IsId (keyOfLength length) := by
  constructor
  · intro isEmpty
    have same := congrArg String.length isEmpty
    rw [keyOfLength, String.length_ofList, List.length_replicate] at same
    exact Nat.ne_of_gt isPositive same
  · intro c member
    rw [keyOfLength, String.toList_ofList, List.mem_replicate] at member
    obtain ⟨-, rfl⟩ := member
    rfl

/-- The text of a command is longer than its key. -/
theorem length_lt_length_muteCommand (seconds : Int) (key : String) :
    key.length <
      (Text.Utf8.bytesOf (muteCommand seconds key)).length := by
  have atLeast := Text.Utf8.length_le_length_encode
    (muteCommand seconds key).toList
  have longer : key.length < (muteCommand seconds key).toList.length := by
    simp only [muteCommand, String.length_toList, String.length_append]
    have opening : 0 < "\x7b\"s\": ".length := by decide
    omega
  exact Nat.lt_of_lt_of_le longer atLeast

/-- The buttons of a key as long as the limit are refused, and so are those of
the empty key, although there are photos of these keys. -/
theorem buttons_of_long_and_empty_keys_refused :
    (IsId (keyOfLength bodyLimit) ∧
      (knowing (keyOfLength bodyLimit)).photos.contains
        (keyOfLength bodyLimit) = true ∧
      ∃ command,
        bodyOf? (muteAction "https://dm.example.com" 600
          (keyOfLength bodyLimit)) = some command ∧
        (answer (knowing (keyOfLength bodyLimit)) ⟨100, 0⟩
          (post (Text.Utf8.bytesOf command))).2.status = 413) ∧
    ((knowing "").photos.contains "" = true ∧
      ∃ command,
        bodyOf? (muteAction "https://dm.example.com" 600 "") = some command ∧
        (answer (knowing "") ⟨100, 0⟩
          (post (Text.Utf8.bytesOf command))).2.status = 403) := by
  constructor
  · have isId : IsId (keyOfLength bodyLimit) := isId_keyOfLength (by decide)
    have isClean : IsClean "https://dm.example.com" := by
      rintro c (rfl | rfl) <;> decide +kernel
    have long : bodyLimit < (Text.Utf8.bytesOf
        (muteCommand 600 (keyOfLength bodyLimit))).length := by
      have longer := length_lt_length_muteCommand 600 (keyOfLength bodyLimit)
      rwa [keyOfLength, String.length_ofList, List.length_replicate] at longer
    refine ⟨isId, contains_knowing _, _, bodyOf?_muteAction isClean 600 isId,
      ?_⟩
    exact (answer_of_long (isPosted_post _) long).1
  · refine ⟨contains_knowing "", muteCommand 600 "", ?_, ?_⟩
    · decide +kernel
    · decide +kernel

end Control

end DrivewayWatch
