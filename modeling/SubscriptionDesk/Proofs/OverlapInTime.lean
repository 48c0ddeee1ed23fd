import SubscriptionDesk.Proofs.AreaPoints
import SubscriptionDesk.Proofs.OverlapReports
import SubscriptionDesk.Proofs.RequestedMoments

/-!
# Overlap in area and overlap in time

To retrieve data more than once, a record has to ask for some point at some moment that a candidate
asks for as well. A report of duplicates means that: the whole of what is asked for is retrieved
already. A report of partial overlap means less. The areas are compared before the times, and the
times only to tell a duplicate from a partial overlap. So a record whose area meets that of a
candidate is reported also when the two are about different days.
-/

namespace SubscriptionDesk

/-- A subscription that passes its check and, if it recurs, names a forecast hour. -/
structure Subscription.WellPosed (subscription : Subscription) : Prop where
  valid : subscription.check = .ok ()
  forecasts : ∀ cycleHours forecastHours,
    subscription.times = .recurring cycleHours forecastHours → ∃ hour, hour ∈ forecastHours

theorem RequestedTimes.exists_cycleHour_of_check {cycleHours : AscendingSet UInt8}
    {forecastHours : AscendingSet UInt16}
    (hcheck : (recurring cycleHours forecastHours).check = .ok ()) :
    ∃ hour, hour ∈ cycleHours := by
  simp only [check] at hcheck
  split at hcheck
  · contradiction
  · rename_i hsome
    exact AscendingSet.isEmpty_eq_false_iff.mp (by simpa using hsome)

theorem RequestedTimes.le_of_check {period : Period} (hcheck : (range period).check = .ok ()) :
    period.startMillis ≤ period.endMillis := by
  simp only [check] at hcheck
  split at hcheck
  · contradiction
  · rename_i hordered
    exact Int64.not_lt.mp (by simpa [Period.isInverted] using hordered)

/-- Two windows have a moment in common exactly if the later beginning is not after the earlier
end. -/
theorem RequestedTimes.inter_moments_range_iff {period other : Period} :
    ((range period).moments ∩ (range other).moments).Nonempty ↔
      max period.startMillis.toInt other.startMillis.toInt ≤
        min period.endMillis.toInt other.endMillis.toInt := by
  rw [moments, moments, ← Set.image_inter Moment.instant_injective, Set.image_nonempty]
  constructor
  · rintro ⟨millis, ⟨hstart, hend⟩, hotherStart, hotherEnd⟩
    exact Int.le_trans (Int.max_le.mpr ⟨hstart, hotherStart⟩) (Int.le_min.mpr ⟨hend, hotherEnd⟩)
  · intro hle
    obtain ⟨hend, hotherEnd⟩ := Int.le_min.mp hle
    exact ⟨_, ⟨Int.le_max_left _ _, hend⟩, Int.le_max_right _ _, hotherEnd⟩

namespace Subscription

variable {subscription : Subscription}

theorem check_parts (hcheck : subscription.check = .ok ()) :
    subscription.coverage.check = .ok () ∧ subscription.times.check = .ok () := by
  unfold check at hcheck
  split at hcheck
  · contradiction
  · obtain ⟨hcoverage, hrest⟩ := check_then_eq_ok_iff.mp hcheck
    exact ⟨hcoverage, (check_then_eq_ok_iff.mp hrest).1⟩

theorem WellPosed.of_range {period : Period} (htimes : subscription.times = .range period)
    (hcheck : subscription.check = .ok ()) : subscription.WellPosed where
  valid := hcheck
  forecasts := by simp [htimes]

theorem WellPosed.nonempty_moments (hposed : subscription.WellPosed) :
    subscription.times.moments.Nonempty := by
  have hcheck := (check_parts hposed.valid).2
  cases htimes : subscription.times with
  | recurring cycleHours forecastHours =>
      rw [htimes] at hcheck
      exact RequestedTimes.nonempty_moments_recurring.mpr
        ⟨RequestedTimes.exists_cycleHour_of_check hcheck, hposed.forecasts _ _ htimes⟩
  | range period =>
      rw [htimes] at hcheck
      exact RequestedTimes.nonempty_moments_range.mpr (RequestedTimes.le_of_check hcheck)

end Subscription

namespace Registry

def SharesPoint (record candidate : Subscription) : Prop :=
  (record.coverage.points ∩ candidate.coverage.points).Nonempty

def SharesMoment (record candidate : Subscription) : Prop :=
  (record.times.moments ∩ candidate.times.moments).Nonempty

/-- Some point at some moment is asked for by a record and by a candidate. -/
def Meets (record candidate : Subscription) : Prop :=
  SharesPoint record candidate ∧ SharesMoment record candidate

variable {registry : Registry} {candidates : List Subscription} {record candidate : Subscription}
  {name : SubscriptionName}

theorem Rivals.sharesPoint (hrivals : Rivals record candidate) (hrecord : record.WellPosed)
    (hcandidate : candidate.WellPosed) : SharesPoint record candidate :=
  (Envelope.intersects_iff (Subscription.check_parts hrecord.valid).1
    (Subscription.check_parts hcandidate.valid).1).mp hrivals.intersects

theorem Duplicates.meets (hduplicates : Duplicates record candidate)
    (hrecord : record.WellPosed) (hcandidate : candidate.WellPosed) : Meets record candidate := by
  have hmoments := hcandidate.nonempty_moments
  have hcovered := (RequestedTimes.covers_iff_subset hmoments).mp hduplicates.covers
  refine ⟨hduplicates.toRivals.sharesPoint hrecord hcandidate, ?_⟩
  rwa [SharesMoment, Set.inter_eq_right.mpr hcovered]

theorem Names.imp {related other : Subscription → Subscription → Prop}
    (himp : ∀ record ∈ registry.records, ∀ candidate ∈ candidates,
      related record candidate → other record candidate)
    (hnames : registry.Names related candidates name) : registry.Names other candidates name := by
  obtain ⟨candidate, hcandidate, record, hrecord, hrelated, hname⟩ := hnames
  exact ⟨candidate, hcandidate, record, hrecord, himp record hrecord candidate hcandidate hrelated,
    hname⟩

/-- A name meets no candidate exactly if its records are about other moments wherever they share a
point. -/
theorem not_names_meets_iff :
    ¬registry.Names Meets candidates name ↔
      ∀ record ∈ registry.records, record.name = name → ∀ candidate ∈ candidates,
        SharesPoint record candidate → ¬SharesMoment record candidate := by
  constructor
  · intro hnever record hrecord hname candidate hcandidate hpoint hmoment
    exact hnever ⟨candidate, hcandidate, record, hrecord, ⟨hpoint, hmoment⟩, hname⟩
  · rintro hapart ⟨candidate, hcandidate, record, hrecord, ⟨hpoint, hmoment⟩, hname⟩
    exact hapart record hrecord hname candidate hcandidate hpoint hmoment

/-- **What a reported overlap is worth.** Every reported record shares a point with some candidate,
and a record that is reported as a duplicate meets one. What is reported without meeting any
candidate is reported as a partial overlap, and it comes close to candidates only in area. -/
theorem reported_meets (hrecords : ∀ record ∈ registry.records, record.WellPosed)
    (hcandidates : ∀ candidate ∈ candidates, candidate.WellPosed) :
    (∀ name ∈ (registry.checkOverlap candidates).names,
        registry.Names SharesPoint candidates name ∧
          ((registry.checkOverlap candidates).kind = .duplicate →
            registry.Names Meets candidates name)) ∧
      ∀ name, name ∈ (registry.checkOverlap candidates).names ∧
          ¬registry.Names Meets candidates name ↔
        (registry.checkOverlap candidates).kind = .partlyCovered ∧
          registry.Names Rivals candidates name ∧
          ∀ record ∈ registry.records, record.name = name → ∀ candidate ∈ candidates,
            SharesPoint record candidate → ¬SharesMoment record candidate := by
  have hshares {name : SubscriptionName} (hname : registry.Names Rivals candidates name) :
      registry.Names SharesPoint candidates name :=
    hname.imp fun record hrecord candidate hcandidate hrivals =>
      hrivals.sharesPoint (hrecords record hrecord) (hcandidates candidate hcandidate)
  have hmeets {name : SubscriptionName} (hname : registry.Names Duplicates candidates name) :
      registry.Names Meets candidates name :=
    hname.imp fun record hrecord candidate hcandidate hduplicates =>
      hduplicates.meets (hrecords record hrecord) (hcandidates candidate hcandidate)
  rcases checkOverlap_cases registry candidates with
    ⟨-, names, hreport, hnames⟩ | ⟨-, -, names, hreport, hnames⟩ | ⟨-, hreport⟩
  case inl =>
    rw [hreport]
    constructor
    · intro name hname
      have hduplicates := (hnames name).mp hname
      exact ⟨hshares (hduplicates.imp fun _ _ _ _ => Duplicates.toRivals),
        fun _ => hmeets hduplicates⟩
    · intro name
      constructor
      · rintro ⟨hname, hnever⟩
        exact absurd (hmeets ((hnames name).mp hname)) hnever
      · rintro ⟨hkind, -⟩
        contradiction
  case inr.inl =>
    rw [hreport]
    constructor
    · intro name hname
      refine ⟨hshares ((hnames name).mp hname), fun hkind => ?_⟩
      contradiction
    · intro name
      rw [hnames, not_names_meets_iff]
      exact (and_iff_right rfl).symm
  case inr.inr =>
    rw [hreport]
    constructor
    · intro name hname
      exact absurd hname (AscendingSet.not_mem_empty name)
    · intro name
      constructor
      · rintro ⟨hname, -⟩
        exact absurd hname (AscendingSet.not_mem_empty name)
      · rintro ⟨hkind, -⟩
        contradiction

def briefWaves : Subscription := { Subscription.sample "waves" with times := .range ⟨0, 10⟩ }

def lateStorm : Subscription := { Subscription.sample "storm" with times := .range ⟨500, 2000⟩ }

/-- Both records are reported, and one of them is over before the candidate begins. -/
theorem reported_meets_lateStorm :
    ∃ registry : Registry, registry.records = [briefWaves, .sample "winds"] ∧
      registry.checkOverlap [lateStorm] = ⟨.partlyCovered, .ofList [⟨"waves"⟩, ⟨"winds"⟩]⟩ ∧
      registry.Names SharesPoint [lateStorm] ⟨"waves"⟩ ∧
      ¬registry.Names Meets [lateStorm] ⟨"waves"⟩ ∧
      registry.Names Meets [lateStorm] ⟨"winds"⟩ := by
  have hrecords : (ofList [.sample "winds", briefWaves]).records = [briefWaves, .sample "winds"] :=
    by decide +kernel
  have hreport : (ofList [.sample "winds", briefWaves]).checkOverlap [lateStorm] =
      ⟨.partlyCovered, .ofList [⟨"waves"⟩, ⟨"winds"⟩]⟩ := by decide +kernel
  have hwinds : (Subscription.sample "winds").WellPosed := .of_range rfl (by decide +kernel)
  have hwaves : briefWaves.WellPosed := .of_range rfl (by decide +kernel)
  have hstorm : lateStorm.WellPosed := .of_range rfl (by decide +kernel)
  have hposed : ∀ record ∈ (ofList [.sample "winds", briefWaves]).records, record.WellPosed := by
    rw [hrecords]
    exact List.forall_mem_cons.mpr ⟨hwaves, List.forall_mem_singleton.mpr hwinds⟩
  obtain ⟨hshares, hmeets⟩ := reported_meets hposed (List.forall_mem_singleton.mpr hstorm)
  rw [hreport] at hshares hmeets
  refine ⟨_, hrecords, hreport, (hshares _ (by decide)).1, ?_, ?_⟩
  · rintro ⟨candidate, hcandidate, record, hrecord, ⟨-, hmoments⟩, hname⟩
    rw [hrecords] at hrecord
    obtain rfl := List.mem_singleton.mp hcandidate
    rcases List.mem_cons.mp hrecord with rfl | hrecord
    · exact absurd (RequestedTimes.inter_moments_range_iff.mp hmoments) (by decide)
    · obtain rfl := List.mem_singleton.mp hrecord
      exact absurd hname (by decide)
  · by_contra hnever
    obtain ⟨-, -, hapart⟩ := (hmeets _).mp ⟨by decide, hnever⟩
    have hpoint : SharesPoint (.sample "winds") lateStorm :=
      (competes_iff.mp (by decide +kernel)).sharesPoint hwinds hstorm
    exact hapart (.sample "winds") (by simp [hrecords]) rfl lateStorm (by simp) hpoint
      (RequestedTimes.inter_moments_range_iff.mpr (by decide))

def farCalm : Subscription := { Subscription.sample "calm" with times := .range ⟨2000, 3000⟩ }

/-- The record of the first second is reported all the same. -/
theorem reported_not_meets_farCalm :
    (∀ record ∈ (ofList [.sample "winds"]).records, record.WellPosed) ∧ farCalm.WellPosed ∧
      (ofList [.sample "winds"]).checkOverlap [farCalm] =
        ⟨.partlyCovered, .ofList [⟨"winds"⟩]⟩ ∧
      ¬(ofList [.sample "winds"]).Names Meets [farCalm] ⟨"winds"⟩ := by
  have hrecords : (ofList [.sample "winds"]).records = [.sample "winds"] := by decide +kernel
  refine ⟨?_, .of_range rfl (by decide +kernel), by decide +kernel, ?_⟩
  · rw [hrecords]
    exact List.forall_mem_singleton.mpr (.of_range rfl (by decide +kernel))
  · rintro ⟨candidate, hcandidate, record, hrecord, ⟨-, hmoments⟩, -⟩
    rw [hrecords] at hrecord
    obtain rfl := List.mem_singleton.mp hcandidate
    obtain rfl := List.mem_singleton.mp hrecord
    exact absurd (RequestedTimes.inter_moments_range_iff.mp hmoments) (by decide)

end Registry

end SubscriptionDesk
