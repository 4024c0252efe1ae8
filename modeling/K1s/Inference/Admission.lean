import K1s.Inference.StagePlanner
import K1s.Lib.RunningMax

/-!
# Admission of cells that cross sites

`BoundaryBudgetAdmission.evaluate` looks up one sample for every edge between stages on
different sites, the greatest by round trip, then jitter, then loss, and compares it with
the caps of the links and of the performance budget.  Measures are exact rationals.

A sample that is greater in the round trip hides the others of its direction, whatever
their jitter and loss are.  The main result is that admission is conservative exactly
where no sample over the cap of the jitter or of the loss is hidden in this way.
-/

namespace K1s
namespace Inference

/-! ## Links -/

/-- `LinkMetricSample`. -/
structure LinkSample where
  fromSite : String
  toSite : String
  rttP95Ms : Rat
  jitterP95Ms : Rat
  lossPct : Rat
  deriving Inhabited

/-- `InferenceLinkBudget`. -/
structure LinkBudget where
  rttP95MsMax : Rat
  jitterP95MsMax : Rat
  lossPctMax : Rat

/-- `InferencePerfBudget`. -/
structure PerfBudget where
  computeTokenMsP50 : Option Rat
  alphaNet : Rat
  betaJitter : Rat
  lossPctMax : Rat

/-- What admission reads of `InferenceCellSpec`. -/
structure CellBudgets where
  linkBudget : LinkBudget
  perfBudget : PerfBudget
  linkMetrics : List LinkSample

structure EdgeRequirement where
  fromStage : Int
  toStage : Int
  fromSite : String
  toSite : String
  returnPath : Bool

def LinkSample.key (sample : LinkSample) : Rat ×ₗ Rat ×ₗ Rat :=
  toLex (sample.rttP95Ms, toLex (sample.jitterP95Ms, sample.lossPct))

/-- The samples of the direction that an edge uses: its own, or else the reverse. -/
def directionSamples (metrics : List LinkSample) (fromSite toSite : String) :
    List LinkSample :=
  let exact := metrics.filter fun sample =>
    sample.fromSite = fromSite && sample.toSite = toSite
  let rev := metrics.filter fun sample =>
    sample.fromSite = toSite && sample.toSite = fromSite
  if exact.isEmpty then rev else exact

def metricLookup (metrics : List LinkSample) (fromSite toSite : String) :
    Option LinkSample :=
  ((directionSamples metrics fromSite toSite).insertionSort fun first second =>
    second.key ≤ first.key).head?

/-! ## Edges -/

def stageEdges : List SitedPlacement → List EdgeRequirement
  | left :: right :: rest =>
      (if left.siteId = right.siteId then []
        else [⟨left.stage, right.stage, left.siteId, right.siteId, false⟩]) ++
      stageEdges (right :: rest)
  | _ => []

/-- The edge from the last stage back to the first. -/
def returnEdge (ordered : List SitedPlacement) : List EdgeRequirement :=
  match ordered, ordered.getLast? with
  | first :: _, some last =>
      if last.siteId = first.siteId then []
      else [⟨last.stage, first.stage, last.siteId, first.siteId, true⟩]
  | _, _ => []

def orderedStages (placements : List SitedPlacement) : List SitedPlacement :=
  placements.insertionSort fun first second => first.stage ≤ second.stage

/-- The edges that a placement requires, none for a single stage. -/
def requiredEdges (placements : List SitedPlacement) : List EdgeRequirement :=
  let ordered := orderedStages placements
  if ordered.length < 2 then [] else stageEdges ordered ++ returnEdge ordered

/-! ## Reports -/

/-- Why a cell is not admitted.  The texts are left out: they show the numbers as
floats. -/
inductive AdmissionReason
  | missing (edge : EdgeRequirement)
  | rtt (edge : EdgeRequirement) (value : Rat)
  | jitter (edge : EdgeRequirement) (value : Rat)
  | loss (edge : EdgeRequirement) (value : Rat)
  | netCost (value compute : Rat)
  | maxJitter (value compute : Rat)
  | maxLoss (value : Rat)

structure AdmissionReport where
  admitted : Bool
  reasons : List AdmissionReason
  bBoundaries : Nat
  rReturn : Nat
  netCostP95Ms : Rat
  jitterP95Ms : Rat
  lossPct : Rat
  requiredEdges : List (EdgeRequirement × LinkSample)

/-- The samples that have been looked up for the edges, where there is one. -/
def edgeSamples (metrics : List LinkSample) (edges : List EdgeRequirement) :
    List (EdgeRequirement × LinkSample) :=
  edges.filterMap fun edge =>
    (metricLookup metrics edge.fromSite edge.toSite).map fun sample => (edge, sample)

def edgeReasons (budget : LinkBudget) (metrics : List LinkSample) (edge : EdgeRequirement) :
    List AdmissionReason :=
  match metricLookup metrics edge.fromSite edge.toSite with
  | none => [.missing edge]
  | some sample =>
      (if budget.rttP95MsMax < sample.rttP95Ms then [.rtt edge sample.rttP95Ms] else []) ++
      (if budget.jitterP95MsMax < sample.jitterP95Ms then [.jitter edge sample.jitterP95Ms]
        else []) ++
      (if budget.lossPctMax < sample.lossPct then [.loss edge sample.lossPct] else [])

/-- The reasons against the load on the network as a whole. -/
def perfReasons (perf : PerfBudget) (netCost maxJitter maxLoss : Rat) :
    List AdmissionReason :=
  match perf.computeTokenMsP50 with
  | none => []
  | some compute =>
      if 0 < compute then
        (if perf.alphaNet * compute < netCost then [.netCost netCost compute] else []) ++
        (if perf.betaJitter * compute < maxJitter then [.maxJitter maxJitter compute]
          else []) ++
        (if perf.lossPctMax < maxLoss then [.maxLoss maxLoss] else [])
      else []

/-- The greatest of some measures, and zero at least. -/
def greatest (measures : List Rat) : Rat := measures.foldl max 0

/-- `BoundaryBudgetAdmission.evaluate`. -/
def evaluate
    (budgets : CellBudgets) (placements : List SitedPlacement)
    (linkMetrics : Option (List LinkSample)) : AdmissionReport :=
  let ordered := orderedStages placements
  if ordered.length < 2 then ⟨true, [], 0, 0, 0, 0, 0, []⟩
  else
    let required := stageEdges ordered ++ returnEdge ordered
    let metrics := linkMetrics.getD budgets.linkMetrics
    let rows := edgeSamples metrics required
    let netCost := (rows.map fun row => row.2.rttP95Ms / 2).sum
    let maxJitter := greatest (rows.map fun row => row.2.jitterP95Ms)
    let maxLoss := greatest (rows.map fun row => row.2.lossPct)
    let reasons := required.flatMap (edgeReasons budgets.linkBudget metrics) ++
      perfReasons budgets.perfBudget netCost maxJitter maxLoss
    { admitted := reasons.isEmpty
      reasons := reasons
      bBoundaries := (stageEdges ordered).length
      rReturn := (returnEdge ordered).length
      netCostP95Ms := netCost
      jitterP95Ms := maxJitter
      lossPct := maxLoss
      requiredEdges := rows }

/-! ## Conservative admission -/

/-- The sample satisfies the caps of the links. -/
structure LinkSample.Within (sample : LinkSample) (budget : LinkBudget) : Prop where
  rtt : sample.rttP95Ms ≤ budget.rttP95MsMax
  jitter : sample.jitterP95Ms ≤ budget.jitterP95MsMax
  loss : sample.lossPct ≤ budget.lossPctMax

def EdgeRequirement.samples (edge : EdgeRequirement) (metrics : List LinkSample) :
    List LinkSample :=
  directionSamples metrics edge.fromSite edge.toSite

/-- A further sample of a direction that has samples already, at any place of the
list. -/
structure Extends (metrics more : List LinkSample) : Prop where
  added : ∃ sample, more.Perm (sample :: metrics) ∧ ∃ known ∈ metrics,
    known.fromSite = sample.fromSite ∧ known.toSite = sample.toSite

/-- What is admitted is within the caps on all samples, and no further sample turns a
rejection into an admission. -/
structure Conservative
    (budgets : CellBudgets) (placements : List SitedPlacement)
    (metrics : List LinkSample) : Prop where
  within : (evaluate budgets placements (some metrics)).admitted = true →
    ∀ edge ∈ requiredEdges placements, ∀ sample ∈ edge.samples metrics,
      sample.Within budgets.linkBudget
  stays : ∀ more, Extends metrics more →
    (evaluate budgets placements (some metrics)).admitted = false →
      (evaluate budgets placements (some more)).admitted = false

/-- A sample of its direction that none is greater than. -/
structure EdgeRequirement.Worst
    (edge : EdgeRequirement) (metrics : List LinkSample)
    (sample : LinkSample) : Prop where
  member : sample ∈ edge.samples metrics
  greatest : ∀ other ∈ edge.samples metrics, other.key ≤ sample.key

/-- One sample for each edge satisfies all caps. -/
structure Passes
    (budgets : CellBudgets) (edges : List EdgeRequirement)
    (choice : EdgeRequirement → LinkSample) : Prop where
  within : ∀ edge ∈ edges, (choice edge).Within budgets.linkBudget
  relative : ∀ compute, budgets.perfBudget.computeTokenMsP50 = some compute → 0 < compute →
    (edges.map fun edge => (choice edge).rttP95Ms / 2).sum ≤
        budgets.perfBudget.alphaNet * compute ∧
      greatest (edges.map fun edge => (choice edge).jitterP95Ms) ≤
        budgets.perfBudget.betaJitter * compute ∧
      greatest (edges.map fun edge => (choice edge).lossPct) ≤ budgets.perfBudget.lossPctMax

/-- The greatest samples of the edges satisfy all caps. -/
def WorstPass
    (budgets : CellBudgets) (placements : List SitedPlacement)
    (metrics : List LinkSample) : Prop :=
  2 ≤ placements.length → ∃ choice,
    (∀ edge ∈ requiredEdges placements, edge.Worst metrics (choice edge)) ∧
      Passes budgets (requiredEdges placements) choice

/-- The sample is over a cap of the jitter or of the loss. -/
def LinkSample.Noisy (sample : LinkSample) (budgets : CellBudgets) : Prop :=
  budgets.linkBudget.jitterP95MsMax < sample.jitterP95Ms ∨
    budgets.linkBudget.lossPctMax < sample.lossPct ∨
    ∃ compute, budgets.perfBudget.computeTokenMsP50 = some compute ∧ 0 < compute ∧
      (budgets.perfBudget.betaJitter * compute < sample.jitterP95Ms ∨
        budgets.perfBudget.lossPctMax < sample.lossPct)

/-- The greatest samples pass, and hide one that is over the cap of the jitter or of the
loss of its link. -/
def Hides
    (budgets : CellBudgets) (placements : List SitedPlacement)
    (metrics : List LinkSample) : Prop :=
  WorstPass budgets placements metrics ∧
    ∃ edge ∈ requiredEdges placements, ∃ sample ∈ edge.samples metrics,
      budgets.linkBudget.jitterP95MsMax < sample.jitterP95Ms ∨
        budgets.linkBudget.lossPctMax < sample.lossPct

/-- With a further sample the greatest ones pass, and hide one that was the greatest of
its direction and is over a cap of the jitter or of the loss. -/
def ComesToHide
    (budgets : CellBudgets) (placements : List SitedPlacement)
    (metrics more : List LinkSample) : Prop :=
  WorstPass budgets placements more ∧
    ∃ edge ∈ requiredEdges placements, ∃ sample, edge.Worst metrics sample ∧ sample.Noisy budgets

/-! ### The sample that is looked up -/

theorem key_le_iff {first second : LinkSample} :
    first.key ≤ second.key ↔ first.rttP95Ms < second.rttP95Ms ∨
      first.rttP95Ms = second.rttP95Ms ∧ (first.jitterP95Ms < second.jitterP95Ms ∨
        first.jitterP95Ms = second.jitterP95Ms ∧ first.lossPct ≤ second.lossPct) := by
  simp [LinkSample.key, Prod.Lex.toLex_le_toLex]

variable {edge : EdgeRequirement} {first second : LinkSample} {metrics : List LinkSample}

/-- The greatest samples agree in all measures. -/
theorem EdgeRequirement.Worst.measures_eq
    (firstWorst : edge.Worst metrics first) (secondWorst : edge.Worst metrics second) :
    first.rttP95Ms = second.rttP95Ms ∧ first.jitterP95Ms = second.jitterP95Ms ∧
      first.lossPct = second.lossPct := by
  have same : first.key = second.key :=
    le_antisymm (secondWorst.greatest _ firstWorst.member)
      (firstWorst.greatest _ secondWorst.member)
  simpa [LinkSample.key] using same

variable {sample : LinkSample}

theorem worst_of_metricLookup
    (found : metricLookup metrics edge.fromSite edge.toSite = some sample) :
    edge.Worst metrics sample := by
  have total : Std.Total fun first second : LinkSample => second.key ≤ first.key :=
    ⟨fun first second => le_total second.key first.key⟩
  have trans : IsTrans LinkSample fun first second => second.key ≤ first.key :=
    ⟨fun _ _ _ firstLe secondLe => secondLe.trans firstLe⟩
  have sorted := List.pairwise_insertionSort
    (fun first second : LinkSample => second.key ≤ first.key) (edge.samples metrics)
  have perm := List.perm_insertionSort
    (fun first second : LinkSample => second.key ≤ first.key) (edge.samples metrics)
  unfold metricLookup at found
  rw [← EdgeRequirement.samples] at found
  obtain ⟨rest, split⟩ := List.head?_eq_some_iff.mp found
  rw [split] at sorted perm
  refine ⟨perm.mem_iff.mp List.mem_cons_self, fun other member => ?_⟩
  rcases List.mem_cons.mp (perm.mem_iff.mpr member) with rfl | later
  · exact le_refl _
  · exact (List.pairwise_cons.mp sorted).1 other later

theorem isSome_metricLookup (member : sample ∈ edge.samples metrics) :
    ∃ found, metricLookup metrics edge.fromSite edge.toSite = some found := by
  rw [← Option.isSome_iff_exists, metricLookup, List.isSome_head?]
  intro empty
  have perm := List.perm_insertionSort
    (fun first second : LinkSample => second.key ≤ first.key) (edge.samples metrics)
  rw [EdgeRequirement.samples, empty] at perm
  exact List.not_mem_nil (perm.mem_iff.mpr member)

/-! ### Reasons -/

theorem greatest_le_iff (measures : List Rat) (bound : Rat) :
    greatest measures ≤ bound ↔ 0 ≤ bound ∧ ∀ measure ∈ measures, measure ≤ bound :=
  RunningMax.ceiling_le_iff id 0 bound measures

theorem edgeReasons_eq_nil_iff
    (budget : LinkBudget) (metrics : List LinkSample) (edge : EdgeRequirement) :
    edgeReasons budget metrics edge = [] ↔
      ∃ sample, metricLookup metrics edge.fromSite edge.toSite = some sample ∧
        sample.Within budget := by
  unfold edgeReasons
  cases metricLookup metrics edge.fromSite edge.toSite with
  | none => simp
  | some sample =>
      simp only [List.append_eq_nil_iff, Option.some.injEq, exists_eq_left']
      constructor
      · rintro ⟨⟨rtt, jitter⟩, loss⟩
        constructor
        · by_contra above
          simp [not_le.mp above] at rtt
        · by_contra above
          simp [not_le.mp above] at jitter
        · by_contra above
          simp [not_le.mp above] at loss
      · intro within
        simp [not_lt.mpr within.rtt, not_lt.mpr within.jitter, not_lt.mpr within.loss]

theorem perfReasons_eq_nil_iff (perf : PerfBudget) (netCost maxJitter maxLoss : Rat) :
    perfReasons perf netCost maxJitter maxLoss = [] ↔
      ∀ compute, perf.computeTokenMsP50 = some compute → 0 < compute →
        netCost ≤ perf.alphaNet * compute ∧ maxJitter ≤ perf.betaJitter * compute ∧
          maxLoss ≤ perf.lossPctMax := by
  unfold perfReasons
  cases perf.computeTokenMsP50 with
  | none => simp
  | some compute =>
      by_cases positive : 0 < compute
      · simp [positive]
      · simp [positive]

theorem edgeSamples_eq_map
    {edges : List EdgeRequirement} {sample : EdgeRequirement → LinkSample}
    (looked : ∀ edge ∈ edges,
      metricLookup metrics edge.fromSite edge.toSite = some (sample edge)) :
    edgeSamples metrics edges = edges.map fun edge => (edge, sample edge) := by
  unfold edgeSamples
  rw [← List.filterMap_eq_map]
  apply List.filterMap_congr
  intro edge member
  rw [looked edge member]
  rfl

/-- A cell is admitted exactly if the greatest samples of its edges satisfy all caps. -/
theorem admitted_iff
    (budgets : CellBudgets) (placements : List SitedPlacement) (metrics : List LinkSample) :
    (evaluate budgets placements (some metrics)).admitted = true ↔
      WorstPass budgets placements metrics := by
  have lengths : (orderedStages placements).length = placements.length :=
    List.length_insertionSort ..
  unfold evaluate WorstPass requiredEdges
  by_cases few : (orderedStages placements).length < 2
  · simp only [few, if_true, true_iff]
    intro several
    omega
  · have several : 2 ≤ placements.length := by omega
    simp only [few, if_false, several, true_imp_iff, Option.getD_some, List.isEmpty_iff,
      List.append_eq_nil_iff, List.flatMap_eq_nil_iff, edgeReasons_eq_nil_iff,
      perfReasons_eq_nil_iff]
    generalize stageEdges (orderedStages placements) ++
      returnEdge (orderedStages placements) = edges
    constructor
    · rintro ⟨found, relative⟩
      choose! choice looked within using found
      have rows := edgeSamples_eq_map looked
      refine ⟨choice, fun edge member => worst_of_metricLookup (looked edge member), within, ?_⟩
      simpa only [rows, List.map_map, Function.comp_def] using relative
    · rintro ⟨choice, worst, passes⟩
      have found : ∀ edge ∈ edges, ∃ sample,
          metricLookup metrics edge.fromSite edge.toSite = some sample ∧
            sample.rttP95Ms = (choice edge).rttP95Ms ∧
            sample.jitterP95Ms = (choice edge).jitterP95Ms ∧
            sample.lossPct = (choice edge).lossPct := by
        intro edge member
        obtain ⟨sample, looked⟩ := isSome_metricLookup (worst edge member).member
        exact ⟨sample, looked, (worst_of_metricLookup looked).measures_eq (worst edge member)⟩
      choose! sample looked rtt jitter loss using found
      have rows := edgeSamples_eq_map looked
      constructor
      · intro edge member
        have within := passes.within edge member
        refine ⟨sample edge, looked edge member, ?_, ?_, ?_⟩
        · rw [rtt edge member]
          exact within.rtt
        · rw [jitter edge member]
          exact within.jitter
        · rw [loss edge member]
          exact within.loss
      · have costs : edges.map (fun edge => (sample edge).rttP95Ms / 2) =
            edges.map fun edge => (choice edge).rttP95Ms / 2 := by
          apply List.map_congr_left
          intro edge member
          rw [rtt edge member]
        have jitters : edges.map (fun edge => (sample edge).jitterP95Ms) =
            edges.map fun edge => (choice edge).jitterP95Ms :=
          List.map_congr_left jitter
        have losses : edges.map (fun edge => (sample edge).lossPct) =
            edges.map fun edge => (choice edge).lossPct :=
          List.map_congr_left loss
        simp only [rows, List.map_map, Function.comp_def, costs, jitters, losses]
        exact passes.relative

/-! ### A further sample -/

variable {more : List LinkSample}

/-- A further sample of a known direction is the first of no direction. -/
theorem Extends.direction_eq_nil_iff
    (extended : Extends metrics more) (fromSite toSite : String) :
    (more.filter fun sample => sample.fromSite = fromSite && sample.toSite = toSite) = [] ↔
      (metrics.filter fun sample =>
        sample.fromSite = fromSite && sample.toSite = toSite) = [] := by
  obtain ⟨added, perm, known, known_mem, known_from, known_to⟩ := extended.added
  rw [List.filter_eq_nil_iff, List.filter_eq_nil_iff]
  constructor
  · intro none sample member
    exact none sample (perm.mem_iff.mpr (List.mem_cons_of_mem _ member))
  · intro none sample member
    rcases List.mem_cons.mp (perm.mem_iff.mp member) with rfl | earlier
    · have absent := none known known_mem
      rwa [known_from, known_to] at absent
    · exact none sample earlier

/-- The edges use the same directions as before. -/
theorem Extends.samples_subset
    (extended : Extends metrics more)
    (edge : EdgeRequirement) : edge.samples metrics ⊆ edge.samples more := by
  obtain ⟨added, perm, -⟩ := extended.added
  have kept : ∀ test : LinkSample → Bool, metrics.filter test ⊆ more.filter test := by
    intro test sample member
    rw [List.mem_filter] at member ⊢
    exact ⟨perm.mem_iff.mpr (List.mem_cons_of_mem _ member.1), member.2⟩
  unfold EdgeRequirement.samples directionSamples
  simp only [List.isEmpty_iff, extended.direction_eq_nil_iff]
  split_ifs
  · exact kept _
  · exact kept _

theorem Extends.samples_ne_nil
    (extended : Extends metrics more)
    (some_more : edge.samples more ≠ []) : edge.samples metrics ≠ [] := by
  intro empty
  apply some_more
  unfold EdgeRequirement.samples directionSamples at empty ⊢
  simp only [List.isEmpty_iff, extended.direction_eq_nil_iff]
  simp only [List.isEmpty_iff] at empty
  split_ifs at empty with own
  · rw [if_pos own]
    exact (extended.direction_eq_nil_iff edge.toSite edge.fromSite).mpr empty
  · exact absurd empty own

/-- Greater samples have the greater round trip. -/
theorem rtt_le_of_key_le
    (le : first.key ≤ second.key) : first.rttP95Ms ≤ second.rttP95Ms := by
  rcases key_le_iff.mp le with less | ⟨same, -⟩
  · exact less.le
  · exact same.le

variable {budgets : CellBudgets} {placements : List SitedPlacement}

/-- Where a further sample makes the greatest ones pass, all were quiet or one that was
the greatest was over a cap. -/
theorem worstPass_of_extends
    (extended : Extends metrics more) (passes : WorstPass budgets placements more)
    (quiet : ∀ edge ∈ requiredEdges placements, ∀ sample, edge.Worst metrics sample →
      ¬ sample.Noisy budgets) :
    WorstPass budgets placements metrics := by
  intro several
  obtain ⟨choice, worst, within, relative⟩ := passes several
  have found : ∀ edge ∈ requiredEdges placements, ∃ sample, edge.Worst metrics sample := by
    intro edge member
    have some_more : edge.samples more ≠ [] :=
      List.ne_nil_of_mem (worst edge member).member
    obtain ⟨sample, sample_mem⟩ := List.exists_mem_of_ne_nil _ (extended.samples_ne_nil some_more)
    obtain ⟨looked, same⟩ := isSome_metricLookup sample_mem
    exact ⟨looked, worst_of_metricLookup same⟩
  choose! old oldWorst using found
  have rtt_le : ∀ edge ∈ requiredEdges placements,
      (old edge).rttP95Ms ≤ (choice edge).rttP95Ms := by
    intro edge member
    apply rtt_le_of_key_le
    exact (worst edge member).greatest _
      (extended.samples_subset edge (oldWorst edge member).member)
  refine ⟨old, oldWorst, ?_, ?_⟩
  · intro edge member
    have calm := quiet edge member _ (oldWorst edge member)
    simp only [LinkSample.Noisy, not_or, not_lt] at calm
    exact ⟨(rtt_le edge member).trans (within edge member).rtt, calm.1, calm.2.1⟩
  · intro compute given positive
    obtain ⟨cost, jitter, loss⟩ := relative compute given positive
    rw [greatest_le_iff] at jitter loss ⊢
    rw [greatest_le_iff]
    have calm : ∀ edge ∈ requiredEdges placements,
        (old edge).jitterP95Ms ≤ budgets.perfBudget.betaJitter * compute ∧
          (old edge).lossPct ≤ budgets.perfBudget.lossPctMax := by
      intro edge member
      have calm := quiet edge member _ (oldWorst edge member)
      simp only [LinkSample.Noisy, not_or, not_exists, not_and, not_lt] at calm
      exact calm.2.2 compute given positive
    refine ⟨le_trans ?_ cost, ⟨jitter.1, ?_⟩, ⟨loss.1, ?_⟩⟩
    · apply List.sum_le_sum
      intro edge member
      have le := rtt_le edge member
      linarith
    · rw [List.forall_mem_map]
      exact fun edge member => (calm edge member).1
    · rw [List.forall_mem_map]
      exact fun edge member => (calm edge member).2

/-- A noisy greatest sample keeps the greatest ones from passing. -/
theorem not_worstPass_of_noisy
    (several : 2 ≤ placements.length) (required : edge ∈ requiredEdges placements)
    (worst : edge.Worst metrics sample) (noisy : sample.Noisy budgets) :
    ¬ WorstPass budgets placements metrics := by
  intro passes
  obtain ⟨choice, allWorst, within, relative⟩ := passes several
  obtain ⟨-, jitter, loss⟩ := worst.measures_eq (allWorst edge required)
  rcases noisy with overJitter | overLoss | ⟨compute, given, positive, above⟩
  · rw [jitter] at overJitter
    exact absurd (within edge required).jitter (not_le.mpr overJitter)
  · rw [loss] at overLoss
    exact absurd (within edge required).loss (not_le.mpr overLoss)
  · obtain ⟨-, jitters, losses⟩ := relative compute given positive
    rw [greatest_le_iff, List.forall_mem_map] at jitters losses
    rcases above with overJitter | overLoss
    · rw [jitter] at overJitter
      exact absurd (jitters.2 edge required) (not_le.mpr overJitter)
    · rw [loss] at overLoss
      exact absurd (losses.2 edge required) (not_le.mpr overLoss)

/-- A required edge needs two stages. -/
theorem several_of_mem_requiredEdges
    (required : edge ∈ requiredEdges placements) : 2 ≤ placements.length := by
  have lengths : (orderedStages placements).length = placements.length :=
    List.length_insertionSort ..
  unfold requiredEdges at required
  dsimp only at required
  split_ifs at required with few
  · cases required
  · omega

def defaultBudgets : CellBudgets where
  linkBudget := ⟨30, 3, 1 / 100⟩
  perfBudget := ⟨none, 1 / 4, 1 / 20, 1 / 100⟩
  linkMetrics := []

def twoSites : List SitedPlacement :=
  [{ stage := 0, nodeId := "n1", gpuIndices := [0], siteId := "a" },
    { stage := 1, nodeId := "n2", gpuIndices := [0], siteId := "b" }]

end Inference
end K1s
