import DrivewayWatch.Control.Server
import DrivewayWatch.Proofs.Number.Decimal
import DrivewayWatch.Proofs.Text.Search
import Mathlib.Data.Finset.Card
import Mathlib.Data.List.Nodup
import Mathlib.Data.List.TakeWhile

/-!
# Path labels of counted requests

Every request but a browser's question for permission is counted under a path.
The paths of photos share one label, so requests for what the server has are
counted under four labels.  Any other path is its own label, and no request is
too strange to be counted: the labels are as many as the clients like.
-/

namespace DrivewayWatch

namespace Control

variable {T : Type}

def pathLabel? : Counter → Option String
  | .request _ path _ => some path
  | _ => none

/-- The path labels under which requests were counted, one for each request. -/
def pathLabels (counts : List Counter) : List String :=
  counts.filterMap pathLabel?

/-- Requests are counted unless they ask for permission. -/
def IsCounted (request : Request) : Prop :=
  request.method ≠ "OPTIONS"

instance (request : Request) : Decidable (IsCounted request) :=
  inferInstanceAs (Decidable (_ ≠ _))

/-- A target without a question and a fragment is a path. -/
theorem pathOf_eq_toList {target : String} (noQuestion : '?' ∉ target.toList)
    (noFragment : '#' ∉ target.toList) : pathOf target = target.toList := by
  rw [pathOf, List.takeWhile_eq_self_iff]
  intro c member
  have isPlain : c ≠ '?' ∧ c ≠ '#' :=
    ⟨ne_of_mem_of_not_mem member noQuestion,
      ne_of_mem_of_not_mem member noFragment⟩
  simp [isPlain]

def labelOf (request : Request) : String :=
  countedPath (pathOf request.target)

def Route.label : Route → String
  | .health => "/health"
  | .mute => "/mute"
  | .photo _ => "/photo/:name"
  | .metrics => "/metrics"

def routeLabels : List String :=
  ["/health", "/mute", "/metrics", "/photo/:name"]

theorem Route.label_mem_routeLabels (route : Route) :
    route.label ∈ routeLabels := by
  cases route <;> simp [label, routeLabels]

/-- A path is known if the server has, or could have, a route for it, or if it
lies among the photos. -/
def IsKnown (path : List Char) : Prop :=
  path ∈ ["/health".toList, "/mute".toList, "/metrics".toList] ∨
    Text.startsWith path "/photo/".toList = true

theorem countedPath_of_startsWith {path : List Char}
    (starts : Text.startsWith path "/photo/".toList = true) :
    countedPath path = "/photo/:name" := by
  rw [countedPath, if_pos starts]

theorem countedPath_of_not_startsWith {path : List Char}
    (apart : ¬ Text.startsWith path "/photo/".toList = true) :
    countedPath path = String.ofList path := by
  rw [countedPath, if_neg apart]

/-- What a route answers is counted under the label of the route. -/
theorem countedPath_of_ofPath? {hasMetrics : Bool} {path : List Char}
    {route : Route} (found : Route.ofPath? hasMetrics path = some route) :
    countedPath path = route.label := by
  unfold Route.ofPath? at found
  split at found
  · next isHealth =>
      obtain rfl := Option.some.inj found
      rw [isHealth]
      rfl
  split at found
  · next isMute =>
      obtain rfl := Option.some.inj found
      rw [isMute]
      rfl
  split at found
  · next isMetrics =>
      obtain rfl := Option.some.inj found
      rw [isMetrics.2]
      rfl
  split at found
  · next name after =>
      have starts : Text.startsWith path "/photo/".toList = true := by
        rw [Text.startsWith, after, Option.isSome_some]
      rw [Option.ite_none_left_eq_some] at found
      obtain rfl := Option.some.inj found.2
      exact countedPath_of_startsWith starts
  · cases found

theorem countedPath_of_not_isKnown {path : List Char}
    (unknown : ¬ IsKnown path) : countedPath path = String.ofList path :=
  countedPath_of_not_startsWith fun starts => unknown (Or.inr starts)

theorem countedPath_mem_routeLabels_iff (path : List Char) :
    countedPath path ∈ routeLabels ↔ IsKnown path := by
  by_cases starts : Text.startsWith path "/photo/".toList = true
  · have isLabel : countedPath path ∈ routeLabels := by
      rw [countedPath_of_startsWith starts]
      simp [routeLabels]
    exact iff_of_true isLabel (Or.inr starts)
  · have notPhotos : path ≠ "/photo/:name".toList := by
      rintro rfl
      exact starts (by decide +kernel)
    have spells (text : String) :
        String.ofList path = text ↔ path = text.toList := by
      rw [← String.toList_inj, String.toList_ofList]
    simp only [countedPath_of_not_startsWith starts, routeLabels, IsKnown,
      List.mem_cons, List.not_mem_nil, or_false, spells, starts, notPhotos,
      Bool.false_eq_true]

@[simp]
theorem counts_push (state : State T) (feedback : Feedback) :
    (push state feedback).counts = state.counts := by
  unfold push
  split <;> rfl

variable [Timeline T]

@[simp]
theorem counts_obey (state : State T) (now : T) (body : Bytes) :
    (obey state now body).1.counts = state.counts := by
  unfold obey
  split
  · rfl
  · exact counts_push _ _

theorem counts_answerRoute (state : State T) (now : T) (request : Request)
    (route : Route) :
    (answerRoute state now request route).1.counts = state.counts := by
  cases route with
  | health => rfl
  | photo name => rfl
  | metrics => rfl
  | mute =>
      simp only [answerRoute, answerMute]
      split
      · rfl
      · exact counts_obey state now request.body

theorem counts_answerCounted (state : State T) (now : T) (request : Request) :
    (answerCounted state now request).1.counts = state.counts := by
  unfold answerCounted
  split
  · rfl
  split
  · rfl
  split
  · exact counts_answerRoute state now request _
  · rfl

theorem pathLabels_answer (state : State T) (now : T) (request : Request) :
    pathLabels (answer state now request).1.counts =
      pathLabels state.counts ++
        if IsCounted request then [labelOf request] else [] := by
  by_cases counted : IsCounted request
  · rw [answer, if_neg counted, if_pos counted]
    simp [counts_answerCounted, pathLabels, pathLabel?, labelOf]
  · rw [answer, if_pos (not_not.mp counted), if_neg counted, List.append_nil]

/-- The server after requests that came one after another, each at its time. -/
def serve (state : State T) (requests : List (T × Request)) : State T :=
  requests.foldl
    (fun state request => (answer state request.1 request.2).1) state

/-- The labels that requests are counted under. -/
def labelsOf (requests : List (T × Request)) : List String :=
  (requests.filter (IsCounted ·.2)).map (labelOf ·.2)

omit [Timeline T] in
theorem mem_labelsOf {requests : List (T × Request)} {label : String} :
    label ∈ labelsOf requests ↔
      ∃ request ∈ requests, IsCounted request.2 ∧ labelOf request.2 = label := by
  simp only [labelsOf, List.mem_map, List.mem_filter, decide_eq_true_eq,
    and_assoc]

theorem pathLabels_serve (state : State T) (requests : List (T × Request)) :
    pathLabels (serve state requests).counts =
      pathLabels state.counts ++ labelsOf requests := by
  induction requests generalizing state with
  | nil => simp [serve, labelsOf]
  | cons request requests ih =>
      have served : serve state (request :: requests) =
          serve (answer state request.1 request.2).1 requests := rfl
      rw [served, ih, pathLabels_answer]
      by_cases counted : IsCounted request.2 <;>
        simp [labelsOf, counted]

/-- Every request but those that ask for permission is counted, under the label
of its path alone.  What a route answers is counted under the label of the
route, so requests that lead to routes have four labels, however many they are.
The labels of a sequence of requests stay within these four exactly if every
counted request is for a known path; the paths that are not known are counted
under as many labels as there are of them. -/
theorem path_labels_stay_bounded_iff_known (state : State T)
    (requests : List (T × Request)) :
    pathLabels (serve state requests).counts =
      pathLabels state.counts ++ labelsOf requests ∧
    (∀ request route,
      Route.ofPath? state.hasMetrics (pathOf request.target) = some route →
      labelOf request = route.label ∧ route.label ∈ routeLabels) ∧
    ((∀ label ∈ labelsOf requests, label ∈ routeLabels) ↔
      ∀ request ∈ requests, IsCounted request.2 →
        IsKnown (pathOf request.2.target)) ∧
    (∀ first second : Request, ¬ IsKnown (pathOf first.target) →
      ¬ IsKnown (pathOf second.target) →
      (labelOf first = labelOf second ↔
        pathOf first.target = pathOf second.target)) := by
  refine ⟨pathLabels_serve state requests, ?_, ?_, ?_⟩
  · intro request route found
    exact ⟨countedPath_of_ofPath? found, route.label_mem_routeLabels⟩
  · constructor
    · intro bounded request member counted
      exact (countedPath_mem_routeLabels_iff _).mp
        (bounded _ (mem_labelsOf.mpr ⟨request, member, counted, rfl⟩))
    · intro known label member
      obtain ⟨request, inRequests, counted, rfl⟩ := mem_labelsOf.mp member
      exact (countedPath_mem_routeLabels_iff _).mpr
        (known request inRequests counted)
  · intro first second unknown otherUnknown
    rw [labelOf, labelOf, countedPath_of_not_isKnown unknown,
      countedPath_of_not_isKnown otherUnknown, String.ofList_inj]

/-- A request for something that the server has never heard of. -/
def stranger (n : Nat) : Request :=
  ⟨"GET", String.ofList ('/' :: Decimal.digits n), [], []⟩

theorem labelOf_stranger (n : Nat) :
    labelOf (stranger n) = String.ofList ('/' :: Decimal.digits n) := by
  have text : (stranger n).target.toList = '/' :: Decimal.digits n :=
    String.toList_ofList
  have noMark {c : Char} (noDigit : Decimal.isDigit c = false)
      (noSlash : c ≠ '/') : c ∉ (stranger n).target.toList := by
    rw [text]
    exact List.not_mem_cons_of_ne_of_not_mem noSlash
      (Decimal.not_mem_digits noDigit n)
  have isPath : pathOf (stranger n).target = '/' :: Decimal.digits n := by
    rw [← text]
    exact pathOf_eq_toList (noMark rfl (by decide)) (noMark rfl (by decide))
  have apart : ¬ Text.startsWith ('/' :: Decimal.digits n)
      "/photo/".toList = true := by
    intro starts
    obtain ⟨rest, found⟩ := Option.isSome_iff_exists.mp starts
    have split := Text.eq_append_of_after?_eq_some found
    have isPhoto : Decimal.digits n = "photo/".toList ++ rest :=
      (List.cons.inj split).2
    have noLetter : 'p' ∉ Decimal.digits n := Decimal.not_mem_digits rfl n
    rw [isPhoto] at noLetter
    exact noLetter (List.mem_append_left _ List.mem_cons_self)
  rw [labelOf, isPath, countedPath_of_not_startsWith apart]

def newServer : State Instant :=
  { hasMetrics := true
    mute := ⟨none⟩
    photos := PhotoStore.empty
    isHeard := true
    queue := []
    counts := [] }

def strangers (n : Nat) : List (Instant × Request) :=
  (List.range n).map fun index => (⟨0, 0⟩, stranger index)

/-- Each of them is counted under a label of its own. -/
theorem pathLabels_serve_strangers (n : Nat) :
    (pathLabels (serve newServer (strangers n)).counts).length = n ∧
      (pathLabels (serve newServer (strangers n)).counts).Nodup := by
  have labels : pathLabels (serve newServer (strangers n)).counts =
      (List.range n).map fun index =>
        String.ofList ('/' :: Decimal.digits index) := by
    have allCounted : (strangers n).filter (IsCounted ·.2) = strangers n := by
      rw [List.filter_eq_self]
      intro request member
      obtain ⟨index, -, rfl⟩ := List.mem_map.mp member
      simp [IsCounted, stranger]
    rw [pathLabels_serve, labelsOf, allCounted, strangers, List.map_map]
    exact List.map_congr_left fun index _ => labelOf_stranger index
  rw [labels]
  refine ⟨by simp, List.nodup_range.map ?_⟩
  intro first second same
  rw [String.ofList_inj] at same
  exact Decimal.digits_injective (List.cons.inj same).2

/-- No finite set holds the path labels of all sequences of requests. -/
theorem path_labels_are_unbounded :
    ¬ ∃ labels : Finset String,
      ∀ requests : List (Instant × Request),
        ∀ label ∈ pathLabels (serve newServer requests).counts,
          label ∈ labels := by
  rintro ⟨labels, bounds⟩
  obtain ⟨length, distinct⟩ := pathLabels_serve_strangers (labels.card + 1)
  have inside : (pathLabels
      (serve newServer (strangers (labels.card + 1))).counts).toFinset ⊆
      labels := by
    intro label member
    exact bounds _ label (List.mem_toFinset.mp member)
  have few := Finset.card_le_card inside
  rw [List.toFinset_card_of_nodup distinct, length] at few
  omega

end Control

end DrivewayWatch
