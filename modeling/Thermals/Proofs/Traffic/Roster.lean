import Mathlib.Data.Finset.Card
import Mathlib.Data.List.Induction
import Mathlib.Data.List.Nodup
import Thermals.Traffic.Report
import Thermals.Proofs.Filling
import Thermals.Proofs.Keyed

namespace Thermals.Traffic

theorem find?_upsert (report : Report) (reports : List Report) (id : FlarmId) :
    (upsert report reports).find? (fun r => r.id = id) =
      if report.id = id then some report else reports.find? (fun r => r.id = id) := by
  induction reports with
  | nil => by_cases here : report.id = id <;> simp [upsert, here]
  | cons r rest ih =>
    by_cases same : r.id = report.id
    · by_cases here : report.id = id <;> simp [upsert, same, here]
    · rw [upsert, if_neg same]
      by_cases here : r.id = id
      · have other : report.id ≠ id := fun e => same (here.trans e.symm)
        simp [here, other]
      · simp only [List.find?_cons, here, decide_false, ih]

theorem ids_upsert (report : Report) (reports : List Report) :
    (upsert report reports).map Report.id =
      if report.id ∈ reports.map Report.id then reports.map Report.id
      else reports.map Report.id ++ [report.id] := by
  induction reports with
  | nil => simp [upsert]
  | cons r rest ih =>
    by_cases same : r.id = report.id
    · simp [upsert, same]
    · simp only [upsert, same, if_false, List.map_cons, ih, List.mem_cons, Ne.symm same, false_or]
      split <;> rfl

theorem upsert_of_not_mem {report : Report} {reports : List Report}
    (unknown : report.id ∉ reports.map Report.id) : upsert report reports = reports ++ [report] := by
  induction reports with
  | nil => rfl
  | cons r rest ih =>
    rw [List.map_cons, List.mem_cons, not_or] at unknown
    rw [upsert, if_neg (Ne.symm unknown.1), ih unknown.2, List.cons_append]

namespace Roster

theorem find?_eq_some_iff (roster : Roster) (id : FlarmId) (report : Report) :
    roster.find? id = some report ↔ report ∈ roster.reports ∧ report.id = id :=
  Keyed.find?_eq_some_iff roster.nodup id report

theorem isSome_find?_iff (roster : Roster) (id : FlarmId) :
    (roster.find? id).isSome = true ↔ id ∈ roster.reports.map Report.id := by
  rw [find?, List.find?_isSome, List.mem_map]
  simp only [decide_eq_true_eq]

theorem find?_insert (roster : Roster) (report : Report) (id : FlarmId) :
    (roster.insert report).find? id = if report.id = id then some report else roster.find? id :=
  find?_upsert report roster.reports id

theorem ofList_append_singleton (reports : List Report) (report : Report) :
    ofList (reports ++ [report]) = (ofList reports).insert report := by
  rw [ofList, List.foldl_append]
  rfl

theorem ids_ofList (reports : List Report) :
    (ofList reports).reports.map Report.id = (reports.map Report.id).eraseDups := by
  induction reports using List.reverseRecOn with
  | nil => rfl
  | append_singleton reports report ih =>
    rw [ofList_append_singleton, reports_insert, ids_upsert, ih, List.map_append, List.map_singleton,
      Keyed.eraseDups_append_singleton]
    simp only [List.mem_eraseDups]

theorem find?_ofList (reports : List Report) (id : FlarmId) :
    (ofList reports).find? id = (reports.filter fun r => r.id = id).getLast? := by
  induction reports using List.reverseRecOn with
  | nil => rfl
  | append_singleton reports report ih =>
    rw [ofList_append_singleton, find?_insert, ih, List.filter_append]
    by_cases here : report.id = id <;> simp [here]

theorem size_eq (roster : Roster) : roster.size = (roster.reports.map Report.id).toFinset.card := by
  rw [List.toFinset_card_of_nodup roster.nodup, List.length_map, size]

theorem map_some_reports (roster : Roster) :
    roster.reports.map some = (roster.reports.map Report.id).map roster.find? := by
  rw [List.map_map]
  apply List.map_congr_left
  intro report member
  exact ((roster.find?_eq_some_iff report.id report).mpr ⟨member, rfl⟩).symm

theorem foldl_act_ofList (initial : List Report) (steps : List (Filling Report)) :
    steps.foldl (Filling.act insert clear) (ofList initial) = ofList (Filling.log initial steps) := by
  apply Filling.foldl_act ofList
  · intro reports report
    exact (ofList_append_singleton reports report).symm
  · intro reports
    rfl

/-- Whatever was done to a roster, it lists the targets reported since it was last cleared, each of them
once and where it was first reported, and of each the last report as it is. -/
theorem lists_last_reports (initial : List Report) (steps : List (Filling Report)) :
    let log := Filling.log initial steps
    let reported := log.map Report.id
    let last (id : FlarmId) := (log.filter fun report => report.id = id).getLast?
    let roster := steps.foldl (Filling.act insert clear) (ofList initial)
    let listed := roster.reports.map Report.id
    listed.Nodup ∧ (∀ id, id ∈ listed ↔ id ∈ reported) ∧
    (listed.Pairwise fun a b => reported.idxOf a < reported.idxOf b) ∧
    roster.reports.map some = listed.map last ∧
    roster.size = reported.toFinset.card ∧
    ∀ id, roster.find? id = last id ∧ ((roster.find? id).isSome = true ↔ id ∈ reported) := by
  intro log reported last roster listed
  have told : roster = ofList log := foldl_act_ofList initial steps
  have ids : listed = reported.eraseDups := by
    rw [← ids_ofList, ← told]
  have known (id : FlarmId) : id ∈ listed ↔ id ∈ reported := by
    rw [ids, List.mem_eraseDups]
  have found (id : FlarmId) : roster.find? id = last id := by
    rw [told, find?_ofList]
  refine ⟨roster.nodup, known, ?_, ?_, ?_, ?_⟩
  · rw [ids]
    exact Keyed.pairwise_eraseDups reported
  · rw [map_some_reports, funext found]
  · rw [size_eq, List.toFinset.ext known]
  · intro id
    rw [isSome_find?_iff]
    exact ⟨found id, known id⟩

theorem reports_ofList {reports : List Report} (nodup : (reports.map Report.id).Nodup) :
    (ofList reports).reports = reports := by
  induction reports using List.reverseRecOn with
  | nil => rfl
  | append_singleton reports report ih =>
    rw [List.map_append, List.map_singleton, List.nodup_append] at nodup
    obtain ⟨nodup, -, apart⟩ := nodup
    have unknown : report.id ∉ reports.map Report.id :=
      fun known => apart _ known _ (List.mem_singleton_self _) rfl
    rw [ofList_append_singleton, reports_insert, ih nodup, upsert_of_not_mem unknown]

/-- Two rosters without a target in common, made into one with the reports in any order. -/
structure Joins (both first second : Roster) : Prop where
  disjoint : ∀ id ∈ first.reports.map Report.id, id ∉ second.reports.map Report.id
  reordered : both.reports.Perm (ofList (first.reports ++ second.reports)).reports

theorem Joins.find?_eq {both first second : Roster} (joins : Joins both first second) (id : FlarmId) :
    both.find? id = (first.find? id).or (second.find? id) := by
  have nodup : ((first.reports ++ second.reports).map Report.id).Nodup := by
    rw [List.map_append]
    exact List.Nodup.append first.nodup second.nodup fun _ here there => joins.disjoint _ here there
  have reordered := joins.reordered
  rw [reports_ofList nodup] at reordered
  rw [find?, Keyed.find?_perm nodup reordered, List.find?_append]
  rfl

theorem mem_ids_of_find? {roster : Roster} {id : FlarmId} {report : Report}
    (found : roster.find? id = some report) : id ∈ roster.reports.map Report.id := by
  rw [← isSome_find?_iff, found]
  rfl

theorem Joins.absent {both first second : Roster} (joins : Joins both first second) {id : FlarmId}
    {report : Report} (found : first.find? id = some report) : second.find? id = none := by
  rw [Option.eq_none_iff_forall_not_mem]
  intro other there
  exact joins.disjoint id (mem_ids_of_find? found) (mem_ids_of_find? there)

def only (id : FlarmId) (roster : Roster) : Roster where
  reports := roster.reports.filter fun r => r.id = id
  nodup := roster.nodup.sublist (List.filter_sublist.map Report.id)

theorem find?_only (id : FlarmId) (roster : Roster) : (roster.only id).find? id = roster.find? id := by
  ext report
  simp only [find?_eq_some_iff, only, List.mem_filter, decide_eq_true_eq]
  constructor
  · intro found
    exact ⟨found.1.1, found.2⟩
  · intro found
    exact ⟨found, found.2⟩

end Roster
end Thermals.Traffic
