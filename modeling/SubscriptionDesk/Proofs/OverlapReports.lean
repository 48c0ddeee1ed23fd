import SubscriptionDesk.Proofs.RegistryLaws

/-!
# What an overlap report says

The registry compares every record with every candidate and keeps two sets of names on the way. A
record may retrieve all that one candidate asks for and a part of what another one does, so that its
name gets into both sets. What each set holds in the end is said by a relation of records and
candidates, and the report is a matter of these relations only.
-/

namespace SubscriptionDesk

namespace Registry

/-- A record overlaps with a candidate: it is another subscription to the same data that is in use,
and their areas meet. -/
structure Rivals (record candidate : Subscription) : Prop where
  name : record.name ≠ candidate.name
  active : record.activity = .on
  kept : record.deleted = false
  provider : record.provider = candidate.provider
  dataSet : record.dataSet = candidate.dataSet
  dataType : record.dataType = candidate.dataType
  intersects : record.coverage.intersects candidate.coverage = true

structure Duplicates (record candidate : Subscription) : Prop extends Rivals record candidate where
  contains : record.coverage.contains candidate.coverage = true
  covers : record.times.covers candidate.times = true

def RetrievesPart (record candidate : Subscription) : Prop :=
  Rivals record candidate ∧ ¬Duplicates record candidate

/-- Whether a name is that of a record which stands in a relation to one of the candidates. -/
def Names (registry : Registry) (related : Subscription → Subscription → Prop)
    (candidates : List Subscription) (name : SubscriptionName) : Prop :=
  ∃ candidate ∈ candidates, ∃ record ∈ registry.records,
    related record candidate ∧ record.name = name

variable {registry other : Registry} {record candidate : Subscription}
  {candidates others : List Subscription} {name : SubscriptionName} {found : Overlaps}

theorem competes_iff : competes record candidate = true ↔ Rivals record candidate := by
  simp only [competes, Subscription.isActive, Subscription.sameDataSet, Bool.and_eq_true,
    decide_eq_true_eq, Bool.not_eq_true']
  constructor
  · rintro ⟨⟨⟨⟨hname, hkept⟩, hactive⟩, ⟨hprovider, hdataSet⟩, hdataType⟩, hintersects⟩
    exact ⟨hname, hactive, hkept, hprovider, hdataSet, hdataType, hintersects⟩
  · rintro ⟨hname, hactive, hkept, hprovider, hdataSet, hdataType, hintersects⟩
    exact ⟨⟨⟨⟨hname, hkept⟩, hactive⟩, ⟨hprovider, hdataSet⟩, hdataType⟩, hintersects⟩

theorem fulfils_iff (hrivals : Rivals record candidate) :
    fulfils record candidate = true ↔ Duplicates record candidate := by
  rw [fulfils, Bool.and_eq_true]
  exact ⟨fun ⟨hcontains, hcovers⟩ => ⟨hrivals, hcontains, hcovers⟩,
    fun hduplicates => ⟨hduplicates.contains, hduplicates.covers⟩⟩

/-! ### The comparisons -/

namespace Overlaps

theorem compare_cases (candidate : Subscription) (found : Overlaps) (record : Subscription) :
    (¬Rivals record candidate ∧ found.compare candidate record = found) ∨
      (Duplicates record candidate ∧ found.compare candidate record =
        { found with duplicates := found.duplicates.insert record.name }) ∨
      (RetrievesPart record candidate ∧ found.compare candidate record =
        { found with partly := found.partly.insert record.name }) := by
  unfold compare
  by_cases hrivals : Rivals record candidate
  · rw [competes_iff.mpr hrivals]
    by_cases hduplicates : Duplicates record candidate
    · rw [(fulfils_iff hrivals).mpr hduplicates]
      exact .inr (.inl ⟨hduplicates, rfl⟩)
    · rw [Bool.eq_false_iff.mpr ((not_congr (fulfils_iff hrivals)).mpr hduplicates)]
      exact .inr (.inr ⟨⟨hrivals, hduplicates⟩, rfl⟩)
  · rw [Bool.eq_false_iff.mpr ((not_congr competes_iff).mpr hrivals)]
    exact .inl ⟨hrivals, rfl⟩

theorem mem_duplicates_compare :
    name ∈ (found.compare candidate record).duplicates ↔
      name ∈ found.duplicates ∨ Duplicates record candidate ∧ record.name = name := by
  rcases compare_cases candidate found record with
    ⟨hnot, heq⟩ | ⟨hduplicates, heq⟩ | ⟨⟨-, hnot⟩, heq⟩
  · have hnone : ¬Duplicates record candidate := fun hduplicates => hnot hduplicates.toRivals
    simp [heq, hnone]
  · simp [heq, hduplicates, AscendingSet.mem_insert, or_comm, eq_comm]
  · simp [heq, hnot]

theorem mem_partly_compare :
    name ∈ (found.compare candidate record).partly ↔
      name ∈ found.partly ∨ RetrievesPart record candidate ∧ record.name = name := by
  rcases compare_cases candidate found record with
    ⟨hnot, heq⟩ | ⟨hduplicates, heq⟩ | ⟨hpart, heq⟩
  · have hnone : ¬RetrievesPart record candidate := fun hpart => hnot hpart.1
    simp [heq, hnone]
  · have hnone : ¬RetrievesPart record candidate := fun hpart => hpart.2 hduplicates
    simp [heq, hnone]
  · simp [heq, hpart, AscendingSet.mem_insert, or_comm, eq_comm]

variable {part : Overlaps → NameSet .subscription} {related : Subscription → Subscription → Prop}
  {records : List Subscription}

theorem mem_foldl_compare
    (hstep : ∀ found record, name ∈ part (found.compare candidate record) ↔
      name ∈ part found ∨ related record candidate ∧ record.name = name) :
    name ∈ part (records.foldl (compare candidate) found) ↔
      name ∈ part found ∨ ∃ record ∈ records, related record candidate ∧ record.name = name := by
  induction records generalizing found with
  | nil => simp
  | cons head rest ih => simp [ih, hstep, or_assoc]

/-- What every comparison adds to one of the sets, the set holds in the end. -/
theorem mem_foldl_foldl_compare
    (hstep : ∀ candidate found record, name ∈ part (found.compare candidate record) ↔
      name ∈ part found ∨ related record candidate ∧ record.name = name) :
    name ∈ part (candidates.foldl
        (fun found candidate => registry.records.foldl (compare candidate) found) found) ↔
      name ∈ part found ∨ registry.Names related candidates name := by
  induction candidates generalizing found with
  | nil => simp [Names]
  | cons head rest ih =>
      rw [List.foldl_cons, ih, mem_foldl_compare (hstep head)]
      simp [Names, or_assoc]

end Overlaps

theorem mem_duplicates_overlaps :
    name ∈ (registry.overlaps candidates).duplicates ↔
      registry.Names Duplicates candidates name := by
  refine (Overlaps.mem_foldl_foldl_compare
    fun _ _ _ => Overlaps.mem_duplicates_compare).trans ?_
  exact or_iff_right (AscendingSet.not_mem_empty name)

theorem mem_partly_overlaps :
    name ∈ (registry.overlaps candidates).partly ↔
      registry.Names RetrievesPart candidates name := by
  refine (Overlaps.mem_foldl_foldl_compare fun _ _ _ => Overlaps.mem_partly_compare).trans ?_
  exact or_iff_right (AscendingSet.not_mem_empty name)

/-! ### The report -/

structure Classified (registry : Registry) (candidates : List Subscription)
    (report : OverlapReport) : Prop where
  duplicate_iff : report.kind = .duplicate ↔
    ∃ candidate ∈ candidates, ∃ record ∈ registry.records, Duplicates record candidate
  duplicates : report.kind = .duplicate →
    ∀ name, name ∈ report.names ↔ registry.Names Duplicates candidates name
  partly_iff : report.kind = .partlyCovered ↔
    (∀ candidate ∈ candidates, ∀ record ∈ registry.records, ¬Duplicates record candidate) ∧
      ∃ candidate ∈ candidates, ∃ record ∈ registry.records, Rivals record candidate
  rivals : report.kind = .partlyCovered →
    ∀ name, name ∈ report.names ↔ registry.Names Rivals candidates name
  clear_iff : report.kind = .clear ↔
    ∀ candidate ∈ candidates, ∀ record ∈ registry.records, ¬Rivals record candidate
  nobody : report.kind = .clear → ∀ name, name ∉ report.names

theorem exists_names_iff {related : Subscription → Subscription → Prop} :
    (∃ name, registry.Names related candidates name) ↔
      ∃ candidate ∈ candidates, ∃ record ∈ registry.records, related record candidate := by
  constructor
  · rintro ⟨_, candidate, hcandidate, record, hrecord, hrelated, -⟩
    exact ⟨candidate, hcandidate, record, hrecord, hrelated⟩
  · rintro ⟨candidate, hcandidate, record, hrecord, hrelated⟩
    exact ⟨record.name, candidate, hcandidate, record, hrecord, hrelated, rfl⟩

/-- Where nothing is retrieved twice, all rivals retrieve a part. -/
theorem names_retrievesPart_iff
    (hnone : ∀ candidate ∈ candidates, ∀ record ∈ registry.records,
      ¬Duplicates record candidate) :
    registry.Names RetrievesPart candidates name ↔ registry.Names Rivals candidates name := by
  constructor
  · rintro ⟨candidate, hcandidate, record, hrecord, ⟨hrivals, -⟩, hname⟩
    exact ⟨candidate, hcandidate, record, hrecord, hrivals, hname⟩
  · rintro ⟨candidate, hcandidate, record, hrecord, hrivals, hname⟩
    exact ⟨candidate, hcandidate, record, hrecord,
      ⟨hrivals, hnone candidate hcandidate record hrecord⟩, hname⟩

theorem checkOverlap_cases (registry : Registry) (candidates : List Subscription) :
    ((∃ candidate ∈ candidates, ∃ record ∈ registry.records, Duplicates record candidate) ∧
        ∃ names, registry.checkOverlap candidates = ⟨.duplicate, names⟩ ∧
          ∀ name, name ∈ names ↔ registry.Names Duplicates candidates name) ∨
      ((∀ candidate ∈ candidates, ∀ record ∈ registry.records, ¬Duplicates record candidate) ∧
        (∃ candidate ∈ candidates, ∃ record ∈ registry.records, Rivals record candidate) ∧
        ∃ names, registry.checkOverlap candidates = ⟨.partlyCovered, names⟩ ∧
          ∀ name, name ∈ names ↔ registry.Names Rivals candidates name) ∨
      ((∀ candidate ∈ candidates, ∀ record ∈ registry.records, ¬Rivals record candidate) ∧
        registry.checkOverlap candidates = .clear) := by
  unfold checkOverlap Overlaps.report
  cases hduplicates : (registry.overlaps candidates).duplicates.isEmpty with
  | false =>
      obtain ⟨name, hname⟩ := AscendingSet.isEmpty_eq_false_iff.mp hduplicates
      have hsome := exists_names_iff.mp ⟨name, mem_duplicates_overlaps.mp hname⟩
      exact .inl ⟨hsome, _, rfl, fun _ => mem_duplicates_overlaps⟩
  | true =>
      have hnone : ∀ candidate ∈ candidates, ∀ record ∈ registry.records,
          ¬Duplicates record candidate := by
        intro candidate hcandidate record hrecord hrelated
        have hname := mem_duplicates_overlaps.mpr
          ⟨candidate, hcandidate, record, hrecord, hrelated, rfl⟩
        rw [AscendingSet.isEmpty_eq_false_iff.mpr ⟨_, hname⟩] at hduplicates
        contradiction
      have hpartly (name : SubscriptionName) :
          name ∈ (registry.overlaps candidates).partly ↔
            registry.Names Rivals candidates name :=
        mem_partly_overlaps.trans (names_retrievesPart_iff hnone)
      cases hempty : (registry.overlaps candidates).partly.isEmpty with
      | false =>
          obtain ⟨name, hname⟩ := AscendingSet.isEmpty_eq_false_iff.mp hempty
          have hsome := exists_names_iff.mp ⟨name, (hpartly name).mp hname⟩
          exact .inr (.inl ⟨hnone, hsome, _, rfl, hpartly⟩)
      | true =>
          refine .inr (.inr ⟨?_, rfl⟩)
          intro candidate hcandidate record hrecord hrelated
          have hname := (hpartly record.name).mpr
            ⟨candidate, hcandidate, record, hrecord, hrelated, rfl⟩
          rw [AscendingSet.isEmpty_eq_false_iff.mpr ⟨_, hname⟩] at hempty
          contradiction

theorem classified_checkOverlap (registry : Registry) (candidates : List Subscription) :
    registry.Classified candidates (registry.checkOverlap candidates) := by
  rcases checkOverlap_cases registry candidates with
    ⟨⟨candidate, hcandidate, record, hrecord, hduplicates⟩, names, hreport, hnames⟩ |
      ⟨hnone, hsome, names, hreport, hnames⟩ | ⟨hnone, hreport⟩
  · have hrivals := hduplicates.toRivals
    rw [hreport]
    constructor
    case duplicate_iff =>
      exact iff_of_true rfl ⟨candidate, hcandidate, record, hrecord, hduplicates⟩
    case duplicates => exact fun _ => hnames
    case partly_iff =>
      refine iff_of_false nofun ?_
      rintro ⟨hnone, -⟩
      exact hnone candidate hcandidate record hrecord hduplicates
    case rivals => exact nofun
    case clear_iff =>
      exact iff_of_false nofun fun hnone => hnone candidate hcandidate record hrecord hrivals
    case nobody => exact nofun
  · obtain ⟨candidate, hcandidate, record, hrecord, hrivals⟩ := hsome
    rw [hreport]
    constructor
    case duplicate_iff =>
      refine iff_of_false nofun ?_
      rintro ⟨candidate, hcandidate, record, hrecord, hduplicates⟩
      exact hnone candidate hcandidate record hrecord hduplicates
    case duplicates => exact nofun
    case partly_iff =>
      exact iff_of_true rfl ⟨hnone, candidate, hcandidate, record, hrecord, hrivals⟩
    case rivals => exact fun _ => hnames
    case clear_iff =>
      exact iff_of_false nofun fun hnone => hnone candidate hcandidate record hrecord hrivals
    case nobody => exact nofun
  · rw [hreport]
    constructor
    case duplicate_iff =>
      refine iff_of_false nofun ?_
      rintro ⟨candidate, hcandidate, record, hrecord, hduplicates⟩
      exact hnone candidate hcandidate record hrecord hduplicates.toRivals
    case duplicates => exact nofun
    case partly_iff =>
      refine iff_of_false nofun ?_
      rintro ⟨-, candidate, hcandidate, record, hrecord, hrivals⟩
      exact hnone candidate hcandidate record hrecord hrivals
    case rivals => exact nofun
    case clear_iff => exact iff_of_true rfl hnone
    case nobody => exact fun _ => AscendingSet.not_mem_empty

/-- Registries and candidates with the same relations between them get the same report. -/
theorem checkOverlap_congr
    (hduplicates : ∀ name, registry.Names Duplicates candidates name ↔
      other.Names Duplicates others name)
    (hpart : ∀ name, registry.Names RetrievesPart candidates name ↔
      other.Names RetrievesPart others name) :
    registry.checkOverlap candidates = other.checkOverlap others := by
  have hfull : (registry.overlaps candidates).duplicates = (other.overlaps others).duplicates :=
    AscendingSet.ext fun name =>
      mem_duplicates_overlaps.trans ((hduplicates name).trans mem_duplicates_overlaps.symm)
  have hpartly : (registry.overlaps candidates).partly = (other.overlaps others).partly :=
    AscendingSet.ext fun name =>
      mem_partly_overlaps.trans ((hpart name).trans mem_partly_overlaps.symm)
  unfold checkOverlap Overlaps.report
  rw [hfull, hpartly]

theorem names_congr {related : Subscription → Subscription → Prop}
    (hsame : ∀ candidate, candidate ∈ others ↔ candidate ∈ candidates) :
    registry.Names related others name ↔ registry.Names related candidates name := by
  simp [Names, hsame]

/-- A record that stands in no relation to a candidate may be added. -/
theorem names_put_iff {related : Subscription → Subscription → Prop}
    (hfree : registry.find? record.name = none)
    (hunrelated : ∀ candidate ∈ candidates, ¬related record candidate) :
    (registry.put record).Names related candidates name ↔
      registry.Names related candidates name := by
  have hmem (stored : Subscription) :
      stored ∈ (registry.put record).records ↔ stored = record ∨ stored ∈ registry.records := by
    rw [mem_records_iff, mem_records_iff, find?_put]
    by_cases hname : record.name = stored.name
    · rw [if_pos hname, ← hname, hfree]
      simp [eq_comm]
    · have hne : stored ≠ record := fun heq => hname (congrArg Subscription.name heq.symm)
      rw [if_neg hname, or_iff_right hne]
  constructor
  · rintro ⟨candidate, hcandidate, stored, hstored, hrelated, hname⟩
    rcases (hmem stored).mp hstored with rfl | hstored
    · exact absurd hrelated (hunrelated candidate hcandidate)
    · exact ⟨candidate, hcandidate, stored, hstored, hrelated, hname⟩
  · rintro ⟨candidate, hcandidate, stored, hstored, hrelated, hname⟩
    exact ⟨candidate, hcandidate, stored, (hmem stored).mpr (.inr hstored), hrelated, hname⟩

theorem not_rivals_of_idle (candidate : Subscription)
    (hidle : record.activity = .off ∨ record.deleted = true ∨
      record.sameDataSet candidate = false) : ¬Rivals record candidate := by
  rintro ⟨-, hactive, hkept, hprovider, hdataSet, hdataType, -⟩
  rcases hidle with hoff | hdeleted | hother
  · rw [hactive] at hoff
    contradiction
  · rw [hkept] at hdeleted
    contradiction
  · simp [Subscription.sameDataSet, hprovider, hdataSet, hdataType] at hother

/-- **An overlap report says what there is.** It depends on nothing but which candidates there are
and which records are in use for the same data. -/
theorem checkOverlap_exact (registry : Registry) (candidates : List Subscription) :
    registry.Classified candidates (registry.checkOverlap candidates) ∧
      (∀ others, (∀ candidate, candidate ∈ others ↔ candidate ∈ candidates) →
        registry.checkOverlap others = registry.checkOverlap candidates) ∧
      (∀ record : Subscription, registry.find? record.name = none →
        (record.activity = .off ∨ record.deleted = true ∨
          ∀ candidate ∈ candidates, record.sameDataSet candidate = false) →
        (registry.put record).checkOverlap candidates = registry.checkOverlap candidates) ∧
      ∀ candidate, candidate.name ∉ (registry.checkOverlap [candidate]).names := by
  refine ⟨classified_checkOverlap registry candidates, ?_, ?_, ?_⟩
  · intro others hsame
    exact checkOverlap_congr (fun _ => names_congr hsame) fun _ => names_congr hsame
  · intro record hfree hidle
    have hunrelated : ∀ candidate ∈ candidates, ¬Rivals record candidate := by
      intro candidate hcandidate
      refine not_rivals_of_idle candidate ?_
      exact hidle.imp_right (Or.imp_right fun hother => hother candidate hcandidate)
    refine checkOverlap_congr (fun _ => names_put_iff hfree ?_) fun _ => names_put_iff hfree ?_
    · exact fun candidate hcandidate hduplicates =>
        hunrelated candidate hcandidate hduplicates.toRivals
    · exact fun candidate hcandidate hpart => hunrelated candidate hcandidate hpart.1
  · intro candidate hname
    have hself {related : Subscription → Subscription → Prop}
        (hrelated : ∀ record, related record candidate → Rivals record candidate) :
        ¬registry.Names related [candidate] candidate.name := by
      rintro ⟨only, honly, record, -, hrecord, hsame⟩
      obtain rfl := List.mem_singleton.mp honly
      exact (hrelated record hrecord).name hsame
    rcases checkOverlap_cases registry [candidate] with
      ⟨-, names, hreport, hnames⟩ | ⟨-, -, names, hreport, hnames⟩ | ⟨-, hreport⟩
    · rw [hreport] at hname
      exact hself (fun _ hduplicates => hduplicates.toRivals) ((hnames _).mp hname)
    · rw [hreport] at hname
      exact hself (fun _ hrivals => hrivals) ((hnames _).mp hname)
    · rw [hreport] at hname
      exact AscendingSet.not_mem_empty _ hname

def windsAndWaves : Registry :=
  .ofList [.sample "winds", { Subscription.sample "waves" with times := .range ⟨0, 10⟩ }]

def calmAndStorm : List Subscription :=
  [{ Subscription.sample "calm" with times := .range ⟨0, 500⟩ },
    { Subscription.sample "storm" with times := .range ⟨0, 2000⟩ }]

/-- One of the records that retrieve a part retrieves all that another candidate asks for. -/
theorem checkOverlap_exact_calmAndStorm :
    windsAndWaves.Classified calmAndStorm ⟨.duplicate, .ofList [⟨"winds"⟩]⟩ ∧
      RetrievesPart (.sample "winds")
        { Subscription.sample "storm" with times := .range ⟨0, 2000⟩ } ∧
      windsAndWaves.checkOverlap (calmAndStorm ++ calmAndStorm.reverse) =
        ⟨.duplicate, .ofList [⟨"winds"⟩]⟩ ∧
      (windsAndWaves.put { Subscription.sample "gusts" with activity := .off }).checkOverlap
          calmAndStorm =
        ⟨.duplicate, .ofList [⟨"winds"⟩]⟩ ∧
      (windsAndWaves.checkOverlap [.sample "winds"]).names = .ofList [⟨"waves"⟩] := by
  have hreport : windsAndWaves.checkOverlap calmAndStorm = ⟨.duplicate, .ofList [⟨"winds"⟩]⟩ := by
    decide +kernel
  obtain ⟨hclassified, hsame, hidle, -⟩ := checkOverlap_exact windsAndWaves calmAndStorm
  rw [hreport] at hclassified hsame hidle
  refine ⟨hclassified, ⟨?_, ?_⟩, ?_, ?_, by decide +kernel⟩
  · exact competes_iff.mp (by decide +kernel)
  · intro hduplicates
    exact absurd hduplicates.covers (by decide)
  · exact hsame _ fun candidate => by simp
  · exact hidle _ (by decide +kernel) (.inl rfl)

end Registry

end SubscriptionDesk
