import DrivewayWatch.Proofs.Tracking.FirstGreatest
import DrivewayWatch.Proofs.Tracking.Growth
import Mathlib.Data.List.Induction
import Mathlib.Data.Nat.Basic

/-!
# The most common classification

The votes of a track are the exact counts of its classifications, in the order
in which these were first seen.  The scan for the leader prefers what it meets
first, so the classification of a track is the most common one, and of several
such the one that was seen first.
-/

namespace DrivewayWatch

/-- A label is the most common one, and of several such the one seen first. -/
structure IsFirstSeenMode (labels : List String) (label : String) : Prop where
  occurs : label ∈ labels
  mostCommon : ∀ other, labels.count other ≤ labels.count label
  firstSeen : ∀ other, other ≠ label →
    labels.count other = labels.count label →
    labels.idxOf label < labels.idxOf other

theorem IsFirstSeenMode.unique {labels : List String} {label other : String}
    (isMode : IsFirstSeenMode labels label)
    (otherIsMode : IsFirstSeenMode labels other) : label = other := by
  by_contra differ
  have sameCount : labels.count label = labels.count other :=
    Nat.le_antisymm (otherIsMode.mostCommon label) (isMode.mostCommon other)
  have before := isMode.firstSeen other (Ne.symm differ) sameCount.symm
  have behind := otherIsMode.firstSeen label differ sameCount
  omega

/-- The labels of a list that is longer by one, each at its first place. -/
theorem eraseDups_concat (labels : List String) (label : String) :
    (labels ++ [label]).eraseDups =
      if label ∈ labels then labels.eraseDups
      else labels.eraseDups ++ [label] := by
  rw [List.eraseDups_append, List.removeAll]
  by_cases seen : label ∈ labels <;> simp [seen, List.eraseDups_cons]

theorem pairwise_idxOf_eraseDups (labels : List String) :
    labels.eraseDups.Pairwise fun earlier later =>
      labels.idxOf earlier < labels.idxOf later := by
  induction labels using List.reverseRecOn with
  | nil => simp
  | append_singleton labels label ih =>
      -- Where a label was first seen does not change as more are seen.
      have kept : labels.eraseDups.Pairwise fun earlier later =>
          (labels ++ [label]).idxOf earlier <
            (labels ++ [label]).idxOf later := by
        refine ih.imp_of_mem fun earlierSeen laterSeen before => ?_
        rwa [List.idxOf_append_of_mem (List.mem_eraseDups.mp earlierSeen),
          List.idxOf_append_of_mem (List.mem_eraseDups.mp laterSeen)]
      rw [eraseDups_concat]
      split
      · exact kept
      · next unseen =>
          refine List.pairwise_append.mpr ⟨kept, by simp, ?_⟩
          intro earlier earlierSeen later isLabel
          rw [List.mem_eraseDups] at earlierSeen
          rw [List.mem_singleton.mp isLabel,
            List.idxOf_append_of_mem earlierSeen,
            List.idxOf_append_of_notMem unseen]
          have before := List.idxOf_lt_length_of_mem earlierSeen
          omega

theorem nodup_eraseDups (labels : List String) : labels.eraseDups.Nodup := by
  refine (pairwise_idxOf_eraseDups labels).imp fun before same => ?_
  rw [same] at before
  exact Nat.lt_irrefl _ before

theorem addVote_of_not_mem {votes : List (String × Nat)} {label : String}
    (unseen : label ∉ votes.map Prod.fst) :
    addVote votes label = votes ++ [(label, 1)] := by
  induction votes with
  | nil => rfl
  | cons vote votes ih =>
      rw [List.map_cons, List.mem_cons, not_or] at unseen
      rw [addVote, if_neg (Ne.symm unseen.1), ih unseen.2, List.cons_append]

/-- A vote for another label leaves the counts as they are. -/
theorem map_count_of_not_mem {names : List String} {label : String}
    (unseen : label ∉ names) (count : String → Nat) :
    (names.map fun name =>
        (name, count name + if name = label then 1 else 0)) =
      names.map fun name => (name, count name) := by
  refine List.map_congr_left fun name member => ?_
  rw [if_neg (ne_of_mem_of_not_mem member unseen), Nat.add_zero]

theorem addVote_of_mem {names : List String} (distinct : names.Nodup)
    {label : String} (seen : label ∈ names) (count : String → Nat) :
    addVote (names.map fun name => (name, count name)) label =
      names.map fun name =>
        (name, count name + if name = label then 1 else 0) := by
  induction names with
  | nil => simp at seen
  | cons name names ih =>
      obtain ⟨apart, distinct⟩ := List.nodup_cons.mp distinct
      rw [List.map_cons, addVote]
      by_cases same : name = label
      · -- The label does not occur again, so the other counts stay.
        subst same
        rw [if_pos rfl, List.map_cons, if_pos rfl, map_count_of_not_mem apart]
      · have later : label ∈ names :=
          (List.mem_cons.mp seen).resolve_left (Ne.symm same)
        rw [if_neg same, ih distinct later, List.map_cons, if_neg same,
          Nat.add_zero]

/-- The votes are the counts of the labels in the order of first sight. -/
theorem foldl_addVote (labels : List String) :
    labels.foldl addVote [] =
      labels.eraseDups.map fun label => (label, labels.count label) := by
  induction labels using List.reverseRecOn with
  | nil => rfl
  | append_singleton labels label ih =>
      have counts (name : String) : (labels ++ [label]).count name =
          labels.count name + if name = label then 1 else 0 := by
        rw [List.count_append, List.count_singleton]
        simp only [beq_iff_eq, eq_comm (a := label)]
      simp only [List.foldl_append, List.foldl_cons, List.foldl_nil, ih,
        eraseDups_concat, counts]
      by_cases seen : label ∈ labels
      · rw [if_pos seen, addVote_of_mem (nodup_eraseDups labels)
          (List.mem_eraseDups.mpr seen)]
      · have noVotes : label ∉ (labels.eraseDups.map fun name =>
            (name, labels.count name)).map Prod.fst := by
          simpa using seen
        have unseen : label ∉ labels.eraseDups := by simpa using seen
        rw [if_neg seen, addVote_of_not_mem noVotes, List.map_append,
          map_count_of_not_mem unseen]
        simp [List.count_eq_zero_of_not_mem seen]

/-- The scan goes on from the leader of the votes that it has passed. -/
theorem isFirstGreatest_leading {passed : List (String × Nat)}
    {leader : String × Nat} (leads : IsFirstGreatest Prod.snd passed leader)
    (others : List (String × Nat)) :
    IsFirstGreatest Prod.snd (passed ++ others) (leading leader others) := by
  induction others generalizing passed leader with
  | nil => simpa [leading] using leads
  | cons vote others ih =>
      rw [leading, List.append_cons]
      split
      · next more => exact ih (leads.concat_of_lt more)
      · next notMore => exact ih (leads.concat_of_not_lt notMore)

theorem isFirstSeenMode_of_isFirstGreatest {labels : List String}
    {label : String}
    (greatest :
      IsFirstGreatest (labels.count ·) labels.eraseDups label) :
    IsFirstSeenMode labels label where
  occurs := List.mem_eraseDups.mp greatest.mem
  mostCommon other := by
    by_cases seen : other ∈ labels
    · exact greatest.score_le (List.mem_eraseDups.mpr seen)
    · rw [List.count_eq_zero_of_not_mem seen]
      exact Nat.zero_le _
  firstSeen other differs sameCount := by
    have occurs := List.mem_eraseDups.mp greatest.mem
    have seen : other ∈ labels.eraseDups := by
      rw [List.mem_eraseDups, ← List.count_pos_iff, sameCount]
      exact List.count_pos_iff.mpr occurs
    have inOrder := pairwise_idxOf_eraseDups labels
    obtain ⟨before, after, split, less, -⟩ := greatest
    rw [split] at seen inOrder
    rcases List.mem_append.mp seen with inBefore | others
    · exact absurd sameCount (less other inBefore).ne
    · have inAfter := (List.mem_cons.mp others).resolve_left differs
      exact List.rel_of_pairwise_cons (List.pairwise_append.mp inOrder).2.1
        inAfter

namespace Track

variable {K T : Type}

/-- The classifications of the detections in order of arrival. -/
def labels (track : Track K T) : List String :=
  track.detections.map (·.classification)

theorem votes_eq (track : Track K T) :
    track.votes = track.labels.eraseDups.map fun label =>
      (label, track.labels.count label) := by
  rw [← foldl_addVote, labels, List.foldl_map]
  rfl

theorem isFirstSeenMode_classification (track : Track K T) :
    IsFirstSeenMode track.labels track.classification := by
  have counted := track.votes_eq
  rw [classification]
  cases found : track.votes with
  | nil =>
      rw [found, eq_comm, List.map_eq_nil_iff] at counted
      have seen : track.first.classification ∈ track.labels.eraseDups :=
        List.mem_eraseDups.mpr List.mem_cons_self
      rw [counted] at seen
      cases seen
  | cons vote others =>
      have greatest : IsFirstGreatest Prod.snd (vote :: others)
          (leading vote others) :=
        isFirstGreatest_leading (isFirstGreatest_singleton _ vote) others
      rw [← found, counted] at greatest
      obtain ⟨label, leads, greatest⟩ := greatest.exists_of_map
      have isLabel : (leading vote others).1 = label := by rw [← leads]
      simp only [isLabel]
      exact isFirstSeenMode_of_isFirstGreatest greatest

/-- The classification of a track is that of one of its detections. -/
theorem exists_classification_eq (track : Track K T) :
    ∃ detection ∈ track.detections,
      detection.classification = track.classification :=
  List.mem_map.mp track.isFirstSeenMode_classification.occurs

/-- A track that begins with one detection and takes others has as its
classification exactly the label that occurs most often among them all, and of
several such the one that occurs first. -/
theorem classification_eq_iff_isFirstSeenMode [Scalar K]
    (first : Detection K T) (others : List (Detection K T))
    (label : String) :
    (others.foldl append (start first)).classification = label ↔
      IsFirstSeenMode ((first :: others).map (·.classification)) label := by
  have labels : (others.foldl append (start first)).labels =
      (first :: others).map (·.classification) := by
    rw [Track.labels, detections_foldl_append]
    rfl
  have isMode :=
    (others.foldl append (start first)).isFirstSeenMode_classification
  rw [labels] at isMode
  constructor
  · rintro rfl
    exact isMode
  · exact isMode.unique

end Track

end DrivewayWatch
