import Mathlib.Data.List.DropRight
import Mathlib.Data.List.Nodup
import Remap.Proofs.Check.Overlay
import Remap.Proofs.Text.EditDistance
import Remap.Suggestion

/-!
# Which names are suggested

The candidates within the distance, ranked by their distance from the name and, where that is the
same, by their place in the list: a candidate that occurs twice has two places and two ranks. The
limit takes the best of them, or drops the worst (`suggest_best`). Names of a registry are distinct,
and a name that is not in it is at a distance from each of them, which bounds what a diagnostic
suggests.
-/

namespace Remap

namespace Suggestion

/-- The candidate at a place is within the distance from the name. -/
def IsNear (name : String) (candidates : List String) (maxDistance : Int) (place : Nat) : Prop :=
  ∃ candidate, candidates[place]? = some candidate ∧
    (Text.editDistance name.toList candidate.toList : Int) ≤ maxDistance

/-- The distance of the candidate at a place from the name. -/
def distanceAt (name : String) (candidates : List String) (place : Nat) : Nat :=
  Text.editDistance name.toList (candidates[place]?.getD "").toList

/-- The candidate at one place is closer than the one at another, or as close and earlier. -/
def Better (name : String) (candidates : List String) (i j : Nat) : Prop :=
  distanceAt name candidates i < distanceAt name candidates j ∨
    distanceAt name candidates i = distanceAt name candidates j ∧ i < j

/-- The candidates at some places. -/
def picked (candidates : List String) (places : List Nat) : List String :=
  places.filterMap (candidates[·]?)

/-- The number of candidates within the distance. -/
def countNear (name : String) (candidates : List String) (maxDistance : Int) : Nat :=
  candidates.countP fun candidate =>
    (Text.editDistance name.toList candidate.toList : Int) ≤ maxDistance

/--
The places are those of the best candidates within the distance, as many as the count allows, the
best first.
-/
structure AreBest (name : String) (candidates : List String) (maxDistance : Int) (count : Nat)
    (places : List Nat) : Prop where
  near : ∀ i ∈ places, IsNear name candidates maxDistance i
  ordered : places.Pairwise (Better name candidates)
  length : places.length = min count (countNear name candidates maxDistance)
  best : ∀ i ∈ places, ∀ j, IsNear name candidates maxDistance j → j ∉ places →
    Better name candidates i j

variable {name : String} {candidates : List String} {maxDistance : Int}

/-! The ranking. -/

/-- The places of the candidates within the distance, the best first. -/
def ranking (name : String) (candidates : List String) (maxDistance : Int) : List Nat :=
  (ranked name candidates maxDistance).map (·.place)

/-- What a candidate is scored by is what its place says. -/
lemma mem_scored {s : Scored} :
    s ∈ scored name candidates ↔ candidates[s.place]? = some s.candidate ∧
      s.distance = Text.editDistance name.toList s.candidate.toList := by
  simp only [scored, List.mem_map, Prod.exists, List.mk_mem_zipIdx_iff_getElem?]
  refine ⟨?_, ?_⟩
  · intro h
    obtain ⟨candidate, place, hget, rfl⟩ := h
    exact ⟨hget, rfl⟩
  · intro h
    obtain ⟨hget, hdistance⟩ := h
    exact ⟨s.candidate, s.place, hget, by rw [← hdistance]⟩

/-- Ranked are the candidates that are near enough. -/
lemma mem_ranked {s : Scored} :
    s ∈ ranked name candidates maxDistance ↔
      s ∈ scored name candidates ∧ (s.distance : Int) ≤ maxDistance := by
  rw [ranked, List.mem_mergeSort, List.mem_filter, decide_eq_true_iff]

/-- A ranked candidate is the one at its place. -/
lemma getElem?_of_mem_ranked {s : Scored} (h : s ∈ ranked name candidates maxDistance) :
    candidates[s.place]? = some s.candidate :=
  (mem_scored.1 (mem_ranked.1 h).1).1

/-- A ranked candidate has the distance of the one at its place. -/
lemma distanceAt_of_mem_ranked {s : Scored} (h : s ∈ ranked name candidates maxDistance) :
    distanceAt name candidates s.place = s.distance := by
  obtain ⟨hget, hdistance⟩ := mem_scored.1 (mem_ranked.1 h).1
  rw [distanceAt, hget, Option.getD_some, hdistance]

/-- The ranking has the places of the candidates that are near. -/
lemma mem_ranking {place : Nat} :
    place ∈ ranking name candidates maxDistance ↔ IsNear name candidates maxDistance place := by
  simp only [ranking, List.mem_map, mem_ranked, mem_scored]
  refine ⟨?_, ?_⟩
  · intro h
    obtain ⟨s, ⟨⟨hget, hdistance⟩, hle⟩, rfl⟩ := h
    rw [hdistance] at hle
    exact ⟨s.candidate, hget, hle⟩
  · intro h
    obtain ⟨candidate, hget, hle⟩ := h
    exact ⟨⟨_, place, candidate⟩, ⟨⟨hget, rfl⟩, hle⟩, rfl⟩

/-- No place is ranked twice. -/
lemma nodup_ranking (name : String) (candidates : List String) (maxDistance : Int) :
    (ranking name candidates maxDistance).Nodup := by
  have hscored : ((scored name candidates).map (·.place)).Nodup := by
    have hplaces : (scored name candidates).map (·.place) = candidates.zipIdx.map (·.2) := by
      rw [scored, List.map_map]
      rfl
    rw [hplaces, List.zipIdx_map_snd]
    exact List.nodup_range'
  have hperm := (List.mergeSort_perm ((scored name candidates).filter
    fun s => (s.distance : Int) ≤ maxDistance) Scored.before).map (·.place)
  exact hperm.nodup_iff.2 (hscored.sublist (List.filter_sublist.map _))

/-- The ranking is strict, since no place is ranked twice. -/
lemma pairwise_ranking (name : String) (candidates : List String) (maxDistance : Int) :
    (ranking name candidates maxDistance).Pairwise (Better name candidates) := by
  have hne := List.pairwise_map.1 (nodup_ranking name candidates maxDistance)
  rw [ranking, List.pairwise_map]
  apply ((pairwise_ranked name candidates maxDistance).and hne).imp_of_mem
  intro a b ha hb hab
  obtain ⟨hbefore, hplace⟩ := hab
  rw [Better, distanceAt_of_mem_ranked ha, distanceAt_of_mem_ranked hb]
  simp only [Scored.before, Bool.or_eq_true, Bool.and_eq_true, decide_eq_true_eq,
    beq_iff_eq] at hbefore
  omega

/-- The ranking has as many places as candidates are near. -/
lemma length_ranking (name : String) (candidates : List String) (maxDistance : Int) :
    (ranking name candidates maxDistance).length = countNear name candidates maxDistance := by
  rw [ranking, List.length_map, ranked, List.length_mergeSort, ← List.countP_eq_length_filter,
    scored, List.countP_map, countNear]
  conv_rhs => rw [← List.zipIdx_map_fst 0 candidates, List.countP_map]
  rfl

/-- The first places of the ranking are the best ones. -/
lemma areBest_take (name : String) (candidates : List String) (maxDistance : Int) (count : Nat) :
    AreBest name candidates maxDistance count
      ((ranking name candidates maxDistance).take count) where
  near i hi := mem_ranking.1 (List.mem_of_mem_take hi)
  ordered := (pairwise_ranking name candidates maxDistance).take
  length := by rw [List.length_take, length_ranking]
  best i hi j hj hout := by
    -- a place that is left out comes later in the ranking
    have hsplit := pairwise_ranking name candidates maxDistance
    rw [← List.take_append_drop count (ranking name candidates maxDistance),
      List.pairwise_append] at hsplit
    have hmem := mem_ranking.2 hj
    rw [← List.take_append_drop count (ranking name candidates maxDistance),
      List.mem_append] at hmem
    exact hsplit.2.2 i hi j (hmem.resolve_left hout)

/-- The candidates ranked are those at the places ranked. -/
lemma map_candidate_ranked {found : List Scored}
    (h : ∀ s ∈ found, s ∈ ranked name candidates maxDistance) :
    found.map (·.candidate) = picked candidates (found.map (·.place)) := by
  rw [picked, List.filterMap_map, ← List.filterMap_eq_map]
  apply List.filterMap_congr
  intro s hs
  exact (getElem?_of_mem_ranked (h s hs)).symm

/-- With a limit the first names of the ranking are suggested. -/
lemma suggest_ofNat (name : String) (candidates : List String) (maxDistance : Int)
    (count : Nat) :
    suggest name candidates maxDistance count =
      picked candidates ((ranking name candidates maxDistance).take count) := by
  rw [ranking, ← List.map_take, ← map_candidate_ranked fun s hs => List.mem_of_mem_take hs]
  rfl

/-- With a negative limit the last names of the ranking are left out. -/
lemma suggest_negSucc (name : String) (candidates : List String) (maxDistance : Int) (k : Nat) :
    suggest name candidates maxDistance (-(k + 1)) =
      (picked candidates (ranking name candidates maxDistance)).rdrop (k + 1) := by
  rw [ranking, ← map_candidate_ranked fun s hs => hs, List.rdrop, List.length_map,
    ← List.map_take, ← Int.negSucc_eq]
  rfl

/-! What is suggested for a name that a registry does not have. -/

/-- Places of a list without repetition hold different candidates. -/
lemma nodup_picked {places : List Nat} (hcandidates : candidates.Nodup) (hplaces : places.Nodup) :
    (picked candidates places).Nodup := by
  apply hplaces.filterMap
  intro i j candidate hi hj
  obtain ⟨hlt, -⟩ := List.getElem?_eq_some_iff.1 hi
  exact (List.getElem?_inj hlt hcandidates).1 (hi.trans hj.symm)

/-- What is suggested stands among the candidates, within the distance. -/
lemma mem_candidates_of_mem_suggest {candidate : String} (count : Nat)
    (h : candidate ∈ suggest name candidates maxDistance count) :
    candidate ∈ candidates ∧
      (Text.editDistance name.toList candidate.toList : Int) ≤ maxDistance := by
  rw [suggest_ofNat] at h
  obtain ⟨place, hplace, hget⟩ := List.mem_filterMap.1 h
  obtain ⟨candidate', hget', hle⟩ := (areBest_take name candidates maxDistance count).near _ hplace
  rw [hget] at hget'
  cases hget'
  exact ⟨List.mem_of_getElem? hget, hle⟩

/-- At most three names are suggested. -/
lemma length_similar_le (name : String) (candidates : List String) :
    (similar name candidates).length ≤ 3 := by
  have hsuggest := suggest_ofNat name candidates usualDistance 3
  rw [show similar name candidates = _ from hsuggest]
  exact (List.length_filterMap_le _ _).trans (List.length_take_le _ _)

/-- No name is suggested twice if no candidate is given twice. -/
lemma nodup_similar (h : candidates.Nodup) : (similar name candidates).Nodup := by
  have hsuggest := suggest_ofNat name candidates usualDistance 3
  rw [show similar name candidates = _ from hsuggest]
  exact nodup_picked h ((nodup_ranking name candidates usualDistance).take)

/-- A name that is not among the candidates is at a distance from what is suggested for it. -/
lemma distance_of_mem_similar {candidate : String} (hname : name ∉ candidates)
    (h : candidate ∈ similar name candidates) :
    candidate ∈ candidates ∧ 1 ≤ Text.editDistance name.toList candidate.toList ∧
      Text.editDistance name.toList candidate.toList ≤ 3 := by
  obtain ⟨hmem, hle⟩ := mem_candidates_of_mem_suggest 3 h
  refine ⟨hmem, ?_, Int.ofNat_le.1 hle⟩
  rw [Nat.one_le_iff_ne_zero, Ne, Text.editDistance_eq_zero_iff, String.toList_inj]
  rintro rfl
  exact hname hmem

end Suggestion

namespace Check

open Analyzer Suggestion

variable {registry : Registry} {text : List Char} {d : Diagnostic}

/-- What is suggested about a call is suggested for the name at which the diagnostic points. -/
lemma suggestions_of_mem_flagged (h : d ∈ flagged registry text Code.unknownFunction.id) :
    d.suggestions = similar (d.subject text) registry.names ∧ d.subject text ∉ registry.names := by
  obtain ⟨number, line, site, hline, hsite, hnone, -, rfl⟩ := mem_flagged_unknown.1 h
  have hsubject : (unknown registry number site).subject text = site.name :=
    subject_eq_name hline hsite rfl
  rw [hsubject]
  refine ⟨rfl, ?_⟩
  rw [← Registry.contains_eq_true_iff, Registry.contains, hnone]
  exact Bool.false_ne_true

end Check

/--
Up to a limit the best candidates within the distance are suggested, the best first: a candidate
that is left out is not closer than one that is not, nor as close and earlier. A negative limit
drops as many from the end of the list of all of them. So a diagnostic about an unknown function
suggests at most three names, all different and in the registry, at a distance of 1 to 3 from the
name that is called.
-/
theorem Suggestion.suggest_best :
    (∀ (name : String) (candidates : List String) (maxDistance : Int) (count : Nat),
      ∃ places, AreBest name candidates maxDistance count places ∧
        suggest name candidates maxDistance count = picked candidates places) ∧
    (∀ (name : String) (candidates : List String) (maxDistance : Int) (k : Nat),
      ∃ places, AreBest name candidates maxDistance (countNear name candidates maxDistance) places ∧
        suggest name candidates maxDistance (-(k + 1)) =
          (picked candidates places).rdrop (k + 1)) ∧
    ∀ (registry : Registry) (text : List Char),
      ∀ d ∈ Analyzer.flagged registry text Code.unknownFunction.id,
        d.suggestions.length ≤ 3 ∧ d.suggestions.Nodup ∧ ∀ suggestion ∈ d.suggestions,
          suggestion ∈ registry.names ∧
            1 ≤ Text.editDistance (d.subject text).toList suggestion.toList ∧
            Text.editDistance (d.subject text).toList suggestion.toList ≤ 3 := by
  refine ⟨?_, ?_, ?_⟩
  · intro name candidates maxDistance count
    exact ⟨_, areBest_take name candidates maxDistance count,
      suggest_ofNat name candidates maxDistance count⟩
  · intro name candidates maxDistance k
    have hall := areBest_take name candidates maxDistance (countNear name candidates maxDistance)
    rw [← length_ranking, List.take_length, length_ranking] at hall
    exact ⟨_, hall, suggest_negSucc name candidates maxDistance k⟩
  · intro registry text d hd
    obtain ⟨hsuggestions, hunknown⟩ := Check.suggestions_of_mem_flagged hd
    rw [hsuggestions]
    exact ⟨length_similar_le _ _, nodup_similar registry.nodup, fun suggestion hsuggestion =>
      distance_of_mem_similar hunknown hsuggestion⟩

/-- A misspelt name of a call, for which the registry has one that is close. -/
theorem Suggestion.suggest_best_misspelt :
    let fetch : FunctionSpec :=
      ⟨"fetch", .event, true, [.required "url" "string"], "any", "Fetches a page.", none⟩
    let registry := Registry.empty.insert fetch
    let d := Check.unknown registry 0 ⟨"fecth", false, 0, 6⟩
    let text := "fecth(.a)".toList
    d ∈ Analyzer.flagged registry text Code.unknownFunction.id ∧ d.suggestions = ["fetch"] ∧
      "fetch" ∈ registry.names ∧
      1 ≤ Text.editDistance (d.subject text).toList "fetch".toList ∧
      Text.editDistance (d.subject text).toList "fetch".toList ≤ 3 := by
  intro fetch registry d text
  have hline : Analyzer.CodeLine text 0 text := Analyzer.mem_codeLines.1 (by decide +kernel)
  have hsite : CallSite.WrittenOn ⟨"fecth", false, 0, 6⟩ text :=
    CallSite.mem_ofLine.1 (by decide +kernel)
  have hmem : d ∈ Analyzer.flagged registry text Code.unknownFunction.id :=
    Check.mem_flagged_unknown.2 ⟨0, text, _, hline, hsite, by decide, by decide, rfl⟩
  have hnear : (scored "fecth" registry.names).filter
      (fun s => (s.distance : Int) ≤ usualDistance) = [⟨2, 0, "fetch"⟩] := by decide +kernel
  have hsuggestions : d.suggestions = ["fetch"] := by
    show (limit usualCount (((scored "fecth" registry.names).filter
      fun s => (s.distance : Int) ≤ usualDistance).mergeSort Scored.before)).map _ = _
    rw [hnear, List.mergeSort_singleton]
    rfl
  obtain ⟨-, -, hall⟩ := Suggestion.suggest_best.2.2 registry text d hmem
  exact ⟨hmem, hsuggestions, hall "fetch" (by rw [hsuggestions]; exact List.mem_singleton_self _)⟩

end Remap
