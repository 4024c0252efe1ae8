import K1s.ApiShim.Endpoints
import K1s.Lib.OptionLists

/-!
# The workload of a Service

The adapter attaches the ports of a Service to a workload that the Service selects, and
the API server reports the endpoints of one.  Each looks for its own.  Where several
workloads are selected, the adapter takes one with the name of the Service before all
others, and the server does not.  The names differ exactly where that matters, and where
the adapter cannot read the named ports of a workload, which the server does not look at.
-/

namespace K1s

/-- The first of the sorted items comes before all others. -/
theorem head?_mergeSort
    {α κ : Type} [LinearOrder κ] {key : α → κ} {items : List α} {first : α}
    (isFirst : (items.mergeSort fun one other =>
      decide (key one ≤ key other)).head? = some first) :
    first ∈ items ∧ ∀ other ∈ items, key first ≤ key other := by
  let before (one other : α) : Bool := decide (key one ≤ key other)
  have sorted : (items.mergeSort before).Pairwise fun one other => before one other :=
    List.pairwise_mergeSort (fun one other third => by simpa [before] using le_trans)
      (fun one other => by simpa [before] using le_total (key one) (key other)) items
  obtain ⟨rest, split⟩ := List.head?_eq_some_iff.mp isFirst
  have mem (other : α) : other ∈ items ↔ other = first ∨ other ∈ rest := by
    rw [← List.mem_cons, ← split, List.mem_mergeSort]
  rw [split, List.pairwise_cons] at sorted
  refine ⟨(mem first).mpr (.inl rfl), fun other isItem => ?_⟩
  rcases (mem other).mp isItem with rfl | later
  · exact le_refl _
  · exact of_decide_eq_true (sorted.1 other later)

/-- Sorted items have a first one as soon as there are items. -/
theorem head?_mergeSort_eq_none_iff {α : Type} (before : α → α → Bool) (items : List α) :
    (items.mergeSort before).head? = none ↔ items = [] := by
  rw [List.head?_eq_none_iff, ← List.length_eq_zero_iff, List.length_mergeSort,
    List.length_eq_zero_iff]

namespace Adapter

open Py ApiShim Program

/-! ## The two orders -/

def Candidate.ranked (candidate : Candidate) : TargetCandidate where
  inexact := candidate.inexact
  extra := candidate.extra
  order := candidate.order
  name := candidate.name

/-- The key of the adapter's order. -/
def Candidate.key (candidate : Candidate) : Bool ×ₗ Bool ×ₗ Nat ×ₗ Nat ×ₗ String :=
  toLex (candidate.otherName, candidate.ranked.key)

/-- The adapter asks whether the name is another one, and then keeps to the server's
order. -/
theorem Candidate.key_le_iff (first second : Candidate) :
    first.key ≤ second.key ↔ first.otherName < second.otherName ∨
      first.otherName = second.otherName ∧ first.ranked.key ≤ second.ranked.key :=
  Prod.Lex.le_iff

theorem name_eq_of_key_eq {first second : TargetCandidate} (same : first.key = second.key) :
    first.name = second.name := by
  have parts := toLex.injective same
  simp only [Prod.mk.injEq, EmbeddingLike.apply_eq_iff_eq] at parts
  exact parts.2.2.2

/-- If a candidate has the name of the Service, then one that has it comes first in the
server's order. -/
def NamesakeFirst (svc : K8sObject) (candidates : List TargetCandidate) : Prop :=
  (∃ namesake ∈ candidates, namesake.name = svc.name) →
    ∃ namesake ∈ candidates, namesake.name = svc.name ∧
      ∀ other ∈ candidates, namesake.key ≤ other.key

/-- The first in either order has the same name exactly when a namesake of the Service
comes first in the server's. -/
theorem name_eq_iff
    {svc : K8sObject} {candidates : List Candidate} {attached : Candidate}
    {reported : TargetCandidate}
    (marked : ∀ candidate ∈ candidates, candidate.otherName = decide (candidate.name ≠ svc.name))
    (isAttached : attached ∈ candidates)
    (attachedFirst : ∀ other ∈ candidates, attached.key ≤ other.key)
    (isReported : reported ∈ candidates.map Candidate.ranked)
    (reportedFirst : ∀ other ∈ candidates.map Candidate.ranked, reported.key ≤ other.key) :
    attached.name = reported.name ↔ NamesakeFirst svc (candidates.map Candidate.ranked) := by
  by_cases named : ∃ namesake ∈ candidates, namesake.name = svc.name
  · -- The adapter takes a namesake, so the server has to take one as well.
    obtain ⟨namesake, isNamesake, hasName⟩ := named
    have attachedName : attached.name = svc.name := by
      have notAfter := (Candidate.key_le_iff ..).mp (attachedFirst namesake isNamesake)
      rw [marked attached isAttached, marked namesake isNamesake] at notAfter
      by_contra other
      simp only [other, hasName, ne_eq, not_false_eq_true, not_true_eq_false, decide_true,
        decide_false, Bool.true_eq_false, false_and, or_false] at notAfter
      exact absurd notAfter (by decide)
    rw [attachedName]
    constructor
    · intro reportedName _
      exact ⟨reported, isReported, reportedName.symm, reportedFirst⟩
    · intro first
      obtain ⟨least, isLeast, leastName, leastFirst⟩ :=
        first ⟨namesake.ranked, List.mem_map_of_mem isNamesake, hasName⟩
      have same := le_antisymm (leastFirst reported isReported) (reportedFirst least isLeast)
      rw [← name_eq_of_key_eq same, leastName]
  · -- Every name is another one, and the orders agree.
    have unnamed : ¬ ∃ namesake ∈ candidates.map Candidate.ranked, namesake.name = svc.name := by
      rintro ⟨namesake, isNamesake, hasName⟩
      obtain ⟨candidate, isCandidate, rfl⟩ := List.mem_map.mp isNamesake
      exact named ⟨candidate, isCandidate, hasName⟩
    have others (candidate) (isCandidate : candidate ∈ candidates) :
        candidate.otherName = true := by
      rw [marked candidate isCandidate]
      exact decide_eq_true fun hasName => named ⟨candidate, isCandidate, hasName⟩
    constructor
    · intro _ namesakes
      exact absurd namesakes unnamed
    · intro _
      obtain ⟨candidate, isCandidate, rfl⟩ := List.mem_map.mp isReported
      have notAfter := (Candidate.key_le_iff ..).mp (attachedFirst candidate isCandidate)
      rw [others attached isAttached, others candidate isCandidate] at notAfter
      have same := le_antisymm (notAfter.resolve_left (lt_irrefl _)).2
        (reportedFirst attached.ranked (List.mem_map_of_mem isAttached))
      exact name_eq_of_key_eq same

/-! ## What the adapter finds in a store -/

def foundCandidates
    (store : ObjectStore) (svc : K8sObject)
    (selector : Dictionary String String) : Option (List Candidate) :=
  ((workloads store svc).mapM fun workload =>
    candidateOf svc selector workload.1 workload.2).map List.reduceOption

/-- The labels of every workload can be read. -/
def LabelsReadable (store : ObjectStore) (svc : K8sObject) : Prop :=
  ∀ workload ∈ workloads store svc, (podTemplateLabels workload.2).isSome

/-- The named ports of every selected workload can be read. -/
def PortsReadable
    (store : ObjectStore) (svc : K8sObject)
    (selector : Dictionary String String) : Prop :=
  ∀ workload ∈ workloads store svc, ∀ labels, podTemplateLabels workload.2 = some labels →
    selectorMatches selector labels = true → (podTemplatePortsByName workload.2).isSome

section Found

variable {store : ObjectStore} {svc : K8sObject} {selector : Dictionary String String}

theorem candidateOf_eq (order : Nat) (object : K8sObject) :
    candidateOf svc selector order object = (podTemplateLabels object).bind fun labels =>
        if selectorMatches selector labels then
          (podTemplatePortsByName object).map fun portsByName => some
            { otherName := decide (object.name ≠ svc.name)
              inexact := !sameLabels labels selector
              extra := labels.entries.length - selector.entries.length
              order := order
              name := object.name
              portsByName := portsByName }
        else some none := by
  unfold candidateOf
  cases podTemplateLabels object with
  | none => rfl
  | some labels =>
      simp only [Option.bind_eq_bind, Option.bind_some]
      by_cases selects : selectorMatches selector labels
      · rw [if_pos selects, if_pos selects]
        cases podTemplatePortsByName object <;> rfl
      · rw [if_neg selects, if_neg selects]
        rfl

/-- The server finds what the adapter finds. -/
theorem targetCandidateOf_of_candidateOf
    {order : Nat} {object : K8sObject} {found : Option Candidate}
    (isFound : candidateOf svc selector order object = some found) :
    targetCandidateOf selector order object = some (found.map Candidate.ranked) := by
  rw [candidateOf_eq] at isFound
  obtain ⟨labels, isLabels, isFound⟩ := Option.bind_eq_some_iff.mp isFound
  rw [targetCandidateOf, isLabels, Option.map_some]
  by_cases selects : selectorMatches selector labels
  · rw [if_pos selects] at isFound
    obtain ⟨portsByName, _, rfl⟩ := Option.map_eq_some_iff.mp isFound
    rw [if_pos selects]
    rfl
  · rw [if_neg selects] at isFound
    obtain rfl := Option.some.inj isFound
    rw [if_neg selects]
    rfl

theorem otherName_of_candidateOf
    {order : Nat} {object : K8sObject} {candidate : Candidate}
    (isFound : candidateOf svc selector order object = some (some candidate)) :
    candidate.otherName = decide (candidate.name ≠ svc.name) := by
  rw [candidateOf_eq] at isFound
  obtain ⟨labels, _, isFound⟩ := Option.bind_eq_some_iff.mp isFound
  by_cases selects : selectorMatches selector labels
  · rw [if_pos selects] at isFound
    obtain ⟨portsByName, _, same⟩ := Option.map_eq_some_iff.mp isFound
    rw [← Option.some.inj same]
  · rw [if_neg selects] at isFound
    exact absurd isFound (by simp)

theorem isSome_candidateOf (order : Nat) (object : K8sObject) :
    (candidateOf svc selector order object).isSome ↔
      (podTemplateLabels object).isSome ∧ ∀ labels, podTemplateLabels object = some labels →
        selectorMatches selector labels = true → (podTemplatePortsByName object).isSome := by
  rw [candidateOf_eq]
  cases podTemplateLabels object with
  | none => simp
  | some labels =>
      by_cases selects : selectorMatches selector labels <;> simp [selects]

theorem isSome_foundCandidates :
    (foundCandidates store svc selector).isSome ↔
      LabelsReadable store svc ∧ PortsReadable store svc selector := by
  rw [foundCandidates, Option.isSome_map, isSome_mapM]
  simp only [isSome_candidateOf, LabelsReadable, PortsReadable]
  exact forall₂_and

theorem isSome_targetCandidates :
    (targetCandidates store svc selector).isSome ↔ LabelsReadable store svc := by
  rw [targetCandidates, Option.isSome_map, isSome_mapM]
  simp only [targetCandidateOf, Option.isSome_map, LabelsReadable]

theorem reduceOption_map_map {α β : Type} (image : α → β) (items : List (Option α)) :
    (items.map (Option.map image)).reduceOption = items.reduceOption.map image := by
  induction items with
  | nil => rfl
  | cons item rest ih =>
      cases item <;> simp [ih]

theorem targetCandidates_of_foundCandidates
    {candidates : List Candidate} (found : foundCandidates store svc selector = some candidates) :
    targetCandidates store svc selector = some (candidates.map Candidate.ranked) := by
  obtain ⟨results, all, rfl⟩ := Option.map_eq_some_iff.mp found
  rw [targetCandidates, mapM_eq_some_map
    (fun workload result isFound => targetCandidateOf_of_candidateOf isFound) all,
    Option.map_some, reduceOption_map_map]

theorem otherName_of_foundCandidates
    {candidates : List Candidate}
    (found : foundCandidates store svc selector = some candidates) (candidate : Candidate)
    (isCandidate : candidate ∈ candidates) :
    candidate.otherName = decide (candidate.name ≠ svc.name) := by
  obtain ⟨results, all, rfl⟩ := Option.map_eq_some_iff.mp found
  obtain ⟨workload, _, isFound⟩ := (mem_of_mapM all _).mp
    (List.reduceOption_mem_iff.mp isCandidate)
  exact otherName_of_candidateOf isFound

end Found

section Runs

variable (settings : Settings) (outside : Outside)

theorem runAlone_candidatesOfKind
    (svc : K8sObject) (selector : Dictionary String String) (order : Nat) (gvr : Gvr)
    (world : World) :
    (candidatesOfKind svc selector order gvr).runAlone (AdapterOp.execute settings outside) world =
      (((workloadsOfKind world.store svc gvr).mapM (candidateOf svc selector order)).map
        List.reduceOption, world) := by
  have listed : (candidatesOfKind.listed svc gvr).runAlone
      (AdapterOp.execute settings outside) world =
        (some (workloadsOfKind world.store svc gvr), world) := by
    unfold candidatesOfKind.listed workloadsOfKind
    cases svc.ns <;> rfl
  unfold candidatesOfKind
  rw [bind_eq, runAlone_andThen, listed]
  simp only [bind_eq]
  rw [runAlone_andThen, runAlone_ofOption]
  cases (workloadsOfKind world.store svc gvr).mapM (candidateOf svc selector order) <;> rfl

/-- The adapter looks at the store and leaves the world alone. -/
theorem runAlone_resolveServiceTarget
    (svc : K8sObject) (selector : Dictionary String String) (world : World) :
    (Adapter.resolveServiceTarget svc selector).runAlone
        (AdapterOp.execute settings outside) world =
      (if selector.entries.isEmpty then some none
        else (foundCandidates world.store svc selector).map fun candidates =>
          (candidates.mergeSort Candidate.before).head?, world) := by
  unfold Adapter.resolveServiceTarget
  by_cases empty : selector.entries.isEmpty
  · rw [if_pos empty, if_pos empty]
    rfl
  · rw [if_neg empty, if_neg empty]
    have kinds : foundCandidates world.store svc selector =
        ((workloadsOfKind world.store svc deploymentsResource).mapM
          (candidateOf svc selector 0)).bind fun deployments =>
        ((workloadsOfKind world.store svc statefulsetsResource).mapM
          (candidateOf svc selector 1)).bind fun statefulsets =>
        ((workloadsOfKind world.store svc daemonsetsResource).mapM
          (candidateOf svc selector 2)).map fun daemonsets =>
        (deployments ++ statefulsets ++ daemonsets).reduceOption := by
      unfold foundCandidates workloads
      simp only [List.mapM_append, List.mapM_map, Option.bind_eq_bind, Function.comp_def]
      cases (workloadsOfKind world.store svc deploymentsResource).mapM
        (candidateOf svc selector 0) <;>
      cases (workloadsOfKind world.store svc statefulsetsResource).mapM
        (candidateOf svc selector 1) <;>
      cases (workloadsOfKind world.store svc daemonsetsResource).mapM
        (candidateOf svc selector 2) <;> rfl
    simp only [bind_eq, runAlone_andThen, runAlone_candidatesOfKind]
    rw [kinds]
    cases first : (workloadsOfKind world.store svc deploymentsResource).mapM
        (candidateOf svc selector 0) with
    | none => rfl
    | some deployments =>
        simp only [Option.map_some, Option.bind_some]
        cases second : (workloadsOfKind world.store svc statefulsetsResource).mapM
            (candidateOf svc selector 1) with
        | none => rfl
        | some statefulsets =>
            simp only [Option.map_some, Option.bind_some]
            cases third : (workloadsOfKind world.store svc daemonsetsResource).mapM
                (candidateOf svc selector 2) with
            | none => rfl
            | some daemonsets =>
                simp only [Option.map_some, List.reduceOption_append]
                rfl

end Runs

/-! ## Both look for one workload -/

/-- The adapter attaches the ports of a Service to the workload that the server reports,
or both raise an exception. -/
def SameTarget
    (settings : Settings) (outside : Outside) (world : World) (svc : K8sObject)
    (selector : Dictionary String String) : Prop :=
  ((Adapter.resolveServiceTarget svc selector).runAlone
      (AdapterOp.execute settings outside) world).1.map (Option.map Candidate.name) =
    ApiShim.resolveServiceTarget world.store svc selector

/-- The named ports of the selected workloads can be read, and a selected namesake of the
Service, if there is one, comes first in the server's order. -/
def TargetsAgree
    (store : ObjectStore) (svc : K8sObject)
    (selector : Dictionary String String) : Prop :=
  PortsReadable store svc selector ∧
    ∀ candidates, targetCandidates store svc selector = some candidates →
      NamesakeFirst svc candidates

/-- A selector without entries selects nothing. -/
theorem selectorMatches_of_isEmpty
    {selector : Dictionary String String} (empty : selector.entries.isEmpty = true)
    (labels : Dictionary String String) : selectorMatches selector labels = false := by
  simp [selectorMatches, empty]

/-- Nothing is agreed on about a selector that selects nothing. -/
theorem targetsAgree_of_isEmpty
    {selector : Dictionary String String} (empty : selector.entries.isEmpty = true)
    (store : ObjectStore) (svc : K8sObject) : TargetsAgree store svc selector := by
  refine ⟨fun workload _ labels _ selects => ?_, fun candidates found namesakes => ?_⟩
  · rw [selectorMatches_of_isEmpty empty] at selects
    exact absurd selects (by simp)
  · obtain ⟨namesake, isNamesake, _⟩ := namesakes
    obtain ⟨results, all, rfl⟩ := Option.map_eq_some_iff.mp found
    obtain ⟨workload, _, isFound⟩ := (mem_of_mapM all _).mp
      (List.reduceOption_mem_iff.mp isNamesake)
    simp [targetCandidateOf, selectorMatches_of_isEmpty empty] at isFound

/-- The first candidates of both orders have one name exactly when a namesake comes
first. -/
theorem firstNames_eq_iff
    {svc : K8sObject} {candidates : List Candidate}
    (marked : ∀ candidate ∈ candidates, candidate.otherName = decide (candidate.name ≠ svc.name)) :
    (candidates.mergeSort Candidate.before).head?.map Candidate.name =
        (((candidates.map Candidate.ranked).mergeSort TargetCandidate.before).head?.map
          TargetCandidate.name) ↔
      NamesakeFirst svc (candidates.map Candidate.ranked) := by
  cases attachedFirst : (candidates.mergeSort Candidate.before).head? with
  | none =>
      obtain rfl := (head?_mergeSort_eq_none_iff ..).mp attachedFirst
      simp [NamesakeFirst]
  | some attached =>
      obtain ⟨isAttached, beforeOthers⟩ := head?_mergeSort attachedFirst
      cases reportedFirst :
          ((candidates.map Candidate.ranked).mergeSort TargetCandidate.before).head? with
      | none =>
          have none := (head?_mergeSort_eq_none_iff ..).mp reportedFirst
          rw [List.map_eq_nil_iff.mp none] at isAttached
          exact absurd isAttached List.not_mem_nil
      | some reported =>
          obtain ⟨isReported, reportedBefore⟩ := head?_mergeSort reportedFirst
          rw [Option.map_some, Option.map_some, Option.some.injEq]
          exact name_eq_iff marked isAttached beforeOthers isReported reportedBefore

/-- The adapter and the server name the same workload exactly when some labels cannot be
read, or the ports can and a namesake comes first. -/
theorem sameTarget_iff
    (settings : Settings) (outside : Outside) (world : World) (svc : K8sObject)
    (selector : Dictionary String String) :
    SameTarget settings outside world svc selector ↔
      (LabelsReadable world.store svc → TargetsAgree world.store svc selector) := by
  unfold SameTarget
  rw [runAlone_resolveServiceTarget, ApiShim.resolveServiceTarget]
  by_cases empty : selector.entries.isEmpty
  · rw [if_pos empty, if_pos empty]
    exact iff_of_true rfl fun _ => targetsAgree_of_isEmpty empty world.store svc
  · rw [if_neg empty, if_neg empty]
    cases found : foundCandidates world.store svc selector with
    | none =>
        have unreadable : LabelsReadable world.store svc →
            ¬ PortsReadable world.store svc selector := by
          intro labels ports
          have isFound := isSome_foundCandidates.mpr ⟨labels, ports⟩
          rw [found] at isFound
          exact absurd isFound (by simp)
        have labels : (targetCandidates world.store svc selector).isSome ↔
            LabelsReadable world.store svc := isSome_targetCandidates
        cases targets : targetCandidates world.store svc selector with
        | none =>
            have noLabels : ¬ LabelsReadable world.store svc := by
              rw [← labels, targets]
              simp
            exact iff_of_true rfl fun readable => absurd readable noLabels
        | some candidates =>
            have readable : LabelsReadable world.store svc := by
              rw [← labels, targets]
              rfl
            exact iff_of_false (by simp) fun agree =>
              unreadable readable (agree readable).1
    | some candidates =>
        have isFound : (foundCandidates world.store svc selector).isSome := by
          rw [found]
          rfl
        obtain ⟨labels, ports⟩ := isSome_foundCandidates.mp isFound
        have targets := targetCandidates_of_foundCandidates found
        have names := firstNames_eq_iff (otherName_of_foundCandidates found)
        rw [targets, Option.map_some, Option.map_some, Option.map_some, Option.some.injEq, names]
        constructor
        · intro first _
          refine ⟨ports, fun candidates' targets' => ?_⟩
          rw [targets] at targets'
          rwa [← Option.some.inj targets']
        · intro agree
          exact (agree labels).2 _ targets

/-! ## A Service whose namesake is not the closest match -/

/-- The spec of a Deployment whose pods have some labels. -/
def podsLabelled (labels : Dict) : Json :=
  .dict [("template", .dict [("metadata", .dict [("labels", .dict labels)])])]

/-- `web` and `web-canary`, of which only the second has exactly the selected labels. -/
def canaryStore : ObjectStore :=
  let store := (ObjectStore.empty.upsert deploymentsResource (some "shop") "web"
    (.dict [("name", .str "web")])
    (podsLabelled [("app", .str "web"), ("track", .str "stable")]) (.dict [])).2
  (store.upsert deploymentsResource (some "shop") "web-canary"
    (.dict [("name", .str "web-canary")]) (podsLabelled [("app", .str "web")]) (.dict [])).2

/-- The adapter takes the namesake of the Service, and the server the exact match. -/
theorem not_sameTarget_canary :
    ¬ SameTarget plainSettings plainOutside (World.startedOn canaryStore) shopService
      (serviceSelector shopService.spec) := by
  have shape : (foundCandidates canaryStore shopService (serviceSelector shopService.spec)).map
      (List.map fun candidate => (candidate.name, candidate.inexact)) =
        some [("web", true), ("web-canary", false)] := by
    decide +kernel
  obtain ⟨candidates, found, pairs⟩ := Option.map_eq_some_iff.mp shape
  have selects : ¬ (serviceSelector shopService.spec).entries.isEmpty := by decide
  unfold SameTarget
  rw [runAlone_resolveServiceTarget, ApiShim.resolveServiceTarget, if_neg selects, if_neg selects]
  simp only [World.startedOn]
  rw [found, targetCandidates_of_foundCandidates found, Option.map_some, Option.map_some,
    Option.map_some, Option.some.injEq,
    firstNames_eq_iff (otherName_of_foundCandidates found)]
  have mem (pair : String × Bool) :
      (∃ candidate ∈ candidates, (candidate.name, candidate.inexact) = pair) ↔
        pair = ("web", true) ∨ pair = ("web-canary", false) := by
    rw [← List.mem_map, pairs]
    simp
  obtain ⟨web, isWeb, webPair⟩ := (mem ("web", true)).mpr (.inl rfl)
  obtain ⟨canary, isCanary, canaryPair⟩ := (mem ("web-canary", false)).mpr (.inr rfl)
  intro namesakeFirst
  obtain ⟨least, isLeast, leastName, leastFirst⟩ :=
    namesakeFirst ⟨web.ranked, List.mem_map_of_mem isWeb, congrArg Prod.fst webPair⟩
  obtain ⟨candidate, isCandidate, rfl⟩ := List.mem_map.mp isLeast
  have inexact : candidate.inexact = true := by
    rcases (mem _).mp ⟨candidate, isCandidate, rfl⟩ with pair | pair
    · exact congrArg Prod.snd pair
    · have otherName := leastName.symm.trans (congrArg Prod.fst pair)
      exact absurd otherName (by decide)
  have exactMatch : canary.inexact = false := congrArg Prod.snd canaryPair
  have notAfter := Prod.Lex.le_iff.mp (leastFirst canary.ranked (List.mem_map_of_mem isCanary))
  simp only [TargetCandidate.key, Candidate.ranked, inexact, exactMatch, ofLex_toLex,
    Bool.true_eq_false, false_and, or_false] at notAfter
  exact absurd notAfter (by decide)

end Adapter
end K1s
