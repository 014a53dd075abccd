import Mathlib
import SensorRouter.Outbound.TopicQueue

/-!
Records grouped by topic. A single pass over the records, with an index of the groups by topic, makes the
batches that one gets by looking for the records of each topic in turn.
-/

namespace SensorRouter

variable {α : Type}

theorem nodup_eraseDups (topics : List String) : topics.eraseDups.Nodup := by
  induction hlength : topics.length using Nat.strong_induction_on generalizing topics with
  | h n ih =>
    cases topics with
    | nil => exact List.nodup_nil
    | cons topic rest =>
      have hle : (rest.filter fun other => !other == topic).length ≤ rest.length :=
        List.length_filter_le _ rest
      rw [List.length_cons] at hlength
      rw [List.eraseDups_cons, List.nodup_cons]
      refine ⟨fun hagain => ?_, ih _ (by omega) _ rfl⟩
      simpa using (List.mem_filter.1 (List.mem_eraseDups.1 hagain)).2

theorem eraseDups_concat (topics : List String) (topic : String) :
    (topics ++ [topic]).eraseDups =
      if topic ∈ topics.eraseDups then topics.eraseDups else topics.eraseDups ++ [topic] := by
  rw [List.eraseDups_append]
  by_cases hknown : topic ∈ topics <;> simp [List.removeAll, List.eraseDups_cons, hknown]

theorem getElem?_concat_eq_some_iff {l : List String} {a b : String} {i : Nat} :
    (l ++ [a])[i]? = some b ↔ l[i]? = some b ∨ i = l.length ∧ a = b := by
  rcases Nat.lt_trichotomy i l.length with hlt | rfl | hgt
  · simp [List.getElem?_append_left hlt, Nat.ne_of_lt hlt]
  · simp
  · have hend : (l ++ [a]).length ≤ i := by simpa using hgt
    simp [List.getElem?_eq_none hend, List.getElem?_eq_none (Nat.le_of_lt hgt), Nat.ne_of_gt hgt]

namespace TopicBatch

/-- The records of a topic, in order. -/
def ofTopic (items : List (Outbound α)) (topic : String) : TopicBatch α where
  topic
  records := (items.filter fun item => item.topic = topic).map (·.record)

theorem records_ofTopic_append (items items' : List (Outbound α)) (topic : String) :
    (ofTopic (items ++ items') topic).records =
      (ofTopic items topic).records ++ (ofTopic items' topic).records := by
  simp [ofTopic]

theorem ofTopic_concat_of_ne {item : Outbound α} {topic : String} (h : item.topic ≠ topic)
    (items : List (Outbound α)) : ofTopic (items ++ [item]) topic = ofTopic items topic := by
  simp [ofTopic, h]

end TopicBatch

/-- The topics of records, each once, in the order in which they first occur. -/
def topicsOf (items : List (Outbound α)) : List String :=
  (items.map (·.topic)).eraseDups

theorem mem_topicsOf {items : List (Outbound α)} {topic : String} :
    topic ∈ topicsOf items ↔ ∃ item ∈ items, item.topic = topic := by
  rw [topicsOf, List.mem_eraseDups, List.mem_map]

theorem nodup_topicsOf (items : List (Outbound α)) : (topicsOf items).Nodup :=
  nodup_eraseDups _

theorem topicsOf_concat (items : List (Outbound α)) (item : Outbound α) :
    topicsOf (items ++ [item]) =
      if item.topic ∈ topicsOf items then topicsOf items else topicsOf items ++ [item.topic] := by
  rw [topicsOf, List.map_append, List.map_singleton, eraseDups_concat]
  rfl

namespace Grouping

open TopicBatch (ofTopic)

variable {g : Grouping α} {items : List (Outbound α)}

/-- The grouping of records: the batches of their topics, and an index that has the topics and nothing
else, each with the place of its batch. -/
structure Groups (g : Grouping α) (items : List (Outbound α)) : Prop where
  batches : g.batches = (topicsOf items).map (ofTopic items)
  index : ∀ topic slot, g.index.get? topic = some slot ↔ (topicsOf items)[slot]? = some topic

theorem groups_empty : ({} : Grouping α).Groups [] where
  batches := rfl
  index _ _ := iff_of_false nofun nofun

theorem Groups.size_groups (h : g.Groups items) : g.groups.size = (topicsOf items).length := by
  have hlengths := congrArg List.length h.batches
  simpa [Grouping.batches] using hlengths

/-- A topic without an entry in the index has no record. -/
theorem Groups.get?_eq_none_iff (h : g.Groups items) {topic : String} :
    g.index.get? topic = none ↔ topic ∉ topicsOf items := by
  rw [Option.eq_none_iff_forall_ne_some, List.mem_iff_getElem?]
  simp [h.index]

/-- The record of a known topic goes to the batch of the topic, and no batch is begun. -/
theorem Groups.add_known (h : g.Groups items) {item : Outbound α} {slot : Nat}
    (hslot : g.index.get? item.topic = some slot) : (g.add item).Groups (items ++ [item]) := by
  have hplace := (h.index _ _).1 hslot
  have htopics : topicsOf (items ++ [item]) = topicsOf items := by
    rw [topicsOf_concat, if_pos (List.mem_of_getElem? hplace)]
  refine ⟨?_, fun topic other => ?_⟩
  · have hmodify : (g.add item).batches =
        g.batches.modify slot fun b => { b with records := b.records ++ [item.record] } := by
      simp only [add, hslot, Grouping.batches, Array.toList_modify]
      apply List.ext_getElem?
      intro i
      simp only [List.getElem?_map, List.getElem?_modify]
      by_cases hi : slot = i <;> cases g.groups.toList[i]? <;> simp [hi]
    rw [hmodify, h.batches, htopics]
    apply List.ext_getElem?
    intro i
    simp only [List.getElem?_map, List.getElem?_modify]
    cases htopic : (topicsOf items)[i]? with
    | none => rfl
    | some topic =>
      by_cases hi : slot = i
      · have hsame : item.topic = topic := by
          rw [← hi, hplace] at htopic
          exact Option.some.inj htopic
        simp [hi, ← hsame, ofTopic]
      · -- no topic stands in two places
        have hother : item.topic ≠ topic := by
          rintro rfl
          have hlt : slot < (topicsOf items).length := (List.getElem?_eq_some_iff.1 hplace).1
          exact hi ((List.getElem?_inj hlt (nodup_topicsOf items)).1 (hplace.trans htopic.symm))
        simp [hi, TopicBatch.ofTopic_concat_of_ne hother]
  · rw [htopics, ← h.index]
    simp [add, hslot]

/-- The record of a new topic begins a batch after the others. -/
theorem Groups.add_new (h : g.Groups items) {item : Outbound α}
    (hnone : g.index.get? item.topic = none) : (g.add item).Groups (items ++ [item]) := by
  have hnew := h.get?_eq_none_iff.1 hnone
  have htopics : topicsOf (items ++ [item]) = topicsOf items ++ [item.topic] := by
    rw [topicsOf_concat, if_neg hnew]
  refine ⟨?_, fun topic slot => ?_⟩
  · have hothers : (topicsOf items).map (ofTopic (items ++ [item])) =
        (topicsOf items).map (ofTopic items) := by
      refine List.map_congr_left fun topic htopic => TopicBatch.ofTopic_concat_of_ne ?_ items
      rintro rfl
      exact hnew htopic
    have hown : ofTopic (items ++ [item]) item.topic = ⟨item.topic, [item.record]⟩ := by
      have hnothing : (items.filter fun other => other.topic = item.topic) = [] :=
        List.filter_eq_nil_iff.2 fun other hother hsame =>
          hnew (mem_topicsOf.2 ⟨other, hother, of_decide_eq_true hsame⟩)
      simp [ofTopic, hnothing]
    rw [htopics, List.map_append, List.map_singleton, hothers, hown, ← h.batches]
    simp [add, hnone, Grouping.batches]
  · have hindex : (g.add item).index = g.index.insert item.topic (topicsOf items).length := by
      simp [add, hnone, h.size_groups]
    rw [hindex, htopics, Dict.get?_insert, getElem?_concat_eq_some_iff]
    by_cases htopic : topic = item.topic
    · have hbefore : (topicsOf items)[slot]? ≠ some topic := fun hslot =>
        hnew (htopic ▸ List.mem_of_getElem? hslot)
      simp [htopic, htopic ▸ hbefore, eq_comm]
    · simp [htopic, Ne.symm htopic, h.index]

/-- One record more is grouped with those before it. -/
theorem Groups.add (h : g.Groups items) (item : Outbound α) :
    (g.add item).Groups (items ++ [item]) := by
  cases hslot : g.index.get? item.topic with
  | none => exact h.add_new hslot
  | some slot => exact h.add_known hslot

theorem groups_foldl (h : g.Groups items) (more : List (Outbound α)) :
    (more.foldl Grouping.add g).Groups (items ++ more) := by
  induction more generalizing g items with
  | nil => rwa [List.append_nil]
  | cons item rest ih =>
    have hrest := ih (h.add item)
    rwa [List.append_assoc, List.singleton_append] at hrest

end Grouping

namespace TopicBatch

/-- One pass over the records makes of each topic, in the order in which the topics first occur, the batch
of its records. -/
theorem group_eq (items : List (Outbound α)) :
    group items = (topicsOf items).map (ofTopic items) :=
  (Grouping.groups_foldl Grouping.groups_empty items).batches

theorem topics_group (items : List (Outbound α)) :
    (group items).map (·.topic) = topicsOf items := by
  rw [group_eq, List.map_map]
  exact List.map_id _

theorem records_ne_nil {items : List (Outbound α)} {b : TopicBatch α} (h : b ∈ group items) :
    b.records ≠ [] := by
  rw [group_eq] at h
  obtain ⟨topic, htopic, rfl⟩ := List.mem_map.1 h
  obtain ⟨item, hitem, hsame⟩ := mem_topicsOf.1 htopic
  have hrecord : item.record ∈ (ofTopic items topic).records :=
    List.mem_map.2 ⟨item, List.mem_filter.2 ⟨hitem, decide_eq_true hsame⟩, rfl⟩
  exact List.ne_nil_of_mem hrecord

/-- Of batches for distinct topics, only that of a topic has records on it. -/
theorem flatMap_ofTopic (items : List (Outbound α)) {topics : List String} (h : topics.Nodup)
    (topic : String) :
    (topics.flatMap fun t => if t = topic then (ofTopic items t).records else []) =
      if topic ∈ topics then (ofTopic items topic).records else [] := by
  induction topics with
  | nil => rfl
  | cons t rest ih =>
    obtain ⟨hfresh, hrest⟩ := List.nodup_cons.1 h
    rw [List.flatMap_cons, ih hrest]
    by_cases ht : t = topic
    · subst ht
      simp [hfresh]
    · simp [ht, Ne.symm ht]

/-- The batches have the records of a topic once, in order. -/
theorem flatMap_group (items : List (Outbound α)) (topic : String) :
    ((group items).flatMap fun b => if b.topic = topic then b.records else []) =
      (ofTopic items topic).records := by
  rw [group_eq, List.flatMap_map]
  refine (flatMap_ofTopic items (nodup_topicsOf items) topic).trans ?_
  split
  · rfl
  · rename_i hmissing
    have hnone : (items.filter fun item => item.topic = topic) = [] :=
      List.filter_eq_nil_iff.2 fun item hitem hsame =>
        hmissing (mem_topicsOf.2 ⟨item, hitem, of_decide_eq_true hsame⟩)
    rw [ofTopic, hnone, List.map_nil]

end TopicBatch

end SensorRouter
