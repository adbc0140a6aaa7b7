import TaxGateway.Jobs.FailureRecording

/-!
Contract: what has to be there before a transaction counts as journaled.

Owns:
- `IsAcknowledged`, a row with signature and QR code whose commands are all answered
  with a DATA node;
- attempts whose commands are all answered: `COMPLETED` exactly when each command can
  be built, whatever the row and the answers hold;
- the exact rows, plans and answers for which an attempt ends as it should.

Does not own: answers that `sendCommand` refuses.
-/

namespace TaxGateway.Jobs.ProcessKraJournalingJob

open TaxGateway.Php
open TaxGateway.Database
open TaxGateway.Http
open TaxGateway.Services

/-! ## Signed and acknowledged -/

/-- An answer with a DATA node. -/
def HasData (platform : Platform) (response : HttpResponse) : Prop :=
  ∃ parsed dataNode, platform.simplexmlLoadString response.body = some parsed ∧
    parsed.child? "DATA" = some dataNode

/-- A signed row, and answers with a DATA node to each of its commands. -/
structure IsAcknowledged (platform : Platform) (device : KraDevice) (transaction : Transaction)
    (answers : Nat → HttpResponse) : Prop where
  signature : transaction.kraDigitalSignature ≠ ""
  qrCode : transaction.kraQrCodeUrl ≠ ""
  answers : ∀ k < (journalPlan device transaction).length, HasData platform (answers k)

/-- The attempt left the row `COMPLETED`, as the row and its answers deserve, or
`FAILED` with the message of what it threw. -/
def CountsRightly (acknowledged : Prop) (outcome : Except Thrown Unit × JournalColumns) : Prop :=
  (outcome.2.status = .COMPLETED ∧ acknowledged) ∨
    (outcome.2.status = .FAILED ∧ ∃ thrown, outcome.1 = .error thrown ∧
      outcome.2.errorMessage.map Varchar.text = some thrown.message)

/-! ## Plans -/

/-- Every step is a command. -/
def Builds (plan : List Prepared) : Prop := ∀ prepared ∈ plan, ∃ command, prepared = .ok command

/-- Step `k` is the first that cannot be built. -/
structure FirstFails (plan : List Prepared) (k : Nat) (thrown : Throwable) : Prop where
  fails : plan[k]? = some (.error thrown)
  before : ∀ j < k, ∀ earlier, plan[j]? = some earlier → ∃ command, earlier = .ok command

/-- What the first step throws that cannot be built is an `\Exception` whose message
fits. -/
def FailureStorable (plan : List Prepared) : Prop :=
  ∀ k thrown, FirstFails plan k thrown →
    thrown.isException = true ∧ thrown.message.length ≤ 255

theorem FirstFails.unique {plan : List Prepared} {k j : Nat} {thrown thrown' : Throwable}
    (first : FirstFails plan k thrown) (other : FirstFails plan j thrown') :
    thrown = thrown' := by
  have notEarlier : ∀ {k j : Nat} {thrown thrown' : Throwable}, FirstFails plan k thrown →
      FirstFails plan j thrown' → ¬ k < j := by
    intro k j thrown thrown' first other below
    obtain ⟨command, built⟩ := other.before k below _ first.fails
    cases built
  have same : k = j := by
    have notBelow := notEarlier first other
    have notAbove := notEarlier other first
    omega
  have steps := first.fails
  rw [same, other.fails] at steps
  exact (Except.error.inj (Option.some.inj steps)).symm

theorem FirstFails.not_builds {plan : List Prepared} {k : Nat} {thrown : Throwable}
    (first : FirstFails plan k thrown) : ¬ Builds plan := by
  intro builds
  obtain ⟨command, built⟩ := builds _ (List.mem_of_getElem? first.fails)
  cases built

/-! ## Attempts that are answered -/

section Attempts

variable {platform : Platform} {kraApi : KraApi} {plan : List Prepared}
  {network : Nat → Transport} {answers : Nat → HttpResponse}

/-- `sendCommand` returns an answer for every command the attempt gets to. -/
def Answered (platform : Platform) (kraApi : KraApi) (plan : List Prepared)
    (network : Nat → Transport) (answers : Nat → HttpResponse) : Prop :=
  ∀ k command, plan[k]? = some (.ok command) →
    (∀ j < k, ∀ earlier, plan[j]? = some earlier → ∃ other, earlier = .ok other) →
    KraApi.sendCommand platform kraApi command.endpoint command.xml false
      (fun _ => network k) = .ok (answers k)

/-- A step that returned is a command. -/
theorem exists_command_of_perform {transport : Transport} {prepared : Prepared}
    {response : HttpResponse}
    (returned : perform platform kraApi transport prepared = .ok response) :
    ∃ command, prepared = .ok command := by
  cases prepared with
  | ok command => exact ⟨command, rfl⟩
  | error thrown => cases returned

theorem perform_of_answered (answered : Answered platform kraApi plan network answers) {k : Nat}
    {command : KraCommand} (atK : plan[k]? = some (.ok command))
    (before : ∀ j < k, ∀ earlier, plan[j]? = some earlier → ∃ other, earlier = .ok other) :
    perform platform kraApi (network k) (.ok command) = .ok (answers k) := by
  simp only [perform, answered k command atK before]

/-- A run that returns has built every command. -/
theorem builds_of_runPlan (ran : runPlan platform kraApi plan network = .ok ()) :
    Builds plan := by
  intro prepared member
  obtain ⟨k, atK⟩ := List.mem_iff_getElem?.mp member
  obtain ⟨response, returned⟩ := runPlan_eq_ok_iff.mp ran k prepared atK
  exact exists_command_of_perform returned

/-- With every command answered, only a command that cannot be built stops the run. -/
theorem firstFails_of_runPlan (answered : Answered platform kraApi plan network answers)
    {thrown : Thrown} (ran : runPlan platform kraApi plan network = .error thrown) :
    ∃ k throwable, thrown = .php throwable ∧ FirstFails plan k throwable := by
  obtain ⟨k, prepared, atK, returned, fails⟩ := runPlan_eq_error_iff.mp ran
  have before : ∀ j < k, ∀ earlier, plan[j]? = some earlier →
      ∃ command, earlier = .ok command := by
    intro j below earlier atJ
    obtain ⟨response, performed⟩ := returned j below earlier atJ
    exact exists_command_of_perform performed
  cases prepared with
  | ok command =>
      rw [perform_of_answered answered atK before] at fails
      cases fails
  | error throwable =>
      exact ⟨k, throwable, (Except.error.inj fails).symm, atK, before⟩

/-- What an attempt that threw leaves is right when what it threw could be stored. -/
theorem countsRightly_of_error_iff {device : KraDevice} {transaction : Transaction}
    {stored : JournalColumns} {acknowledged : Prop} {thrown : Thrown}
    (ran : runPlan platform kraApi (journalPlan device transaction) network = .error thrown) :
    CountsRightly acknowledged (handle platform kraApi device transaction network stored) ↔
      thrown.isException = true ∧ thrown.message.length ≤ 255 := by
  constructor
  · intro right
    by_cases isException : thrown.isException = true
    · refine ⟨isException, ?_⟩
      by_contra tooLong
      rw [handle_of_tooLong stored ran isException (by omega)] at right
      rcases right with ⟨status, -⟩ | ⟨status, -⟩
      · cases status
      · cases status
    · rw [handle_of_error stored ran (by simpa using isException)] at right
      rcases right with ⟨status, -⟩ | ⟨status, -⟩
      · cases status
      · cases status
  · rintro ⟨isException, fits⟩
    obtain ⟨threw, status, message⟩ := handle_of_exception stored ran isException fits
    exact .inr ⟨status, thrown, threw, message⟩

/-- With every command answered, an attempt ends as it should exactly when, all its
commands being built, row and answers are acknowledged, and the first that cannot be
built throws what can be stored. -/
theorem counted_rightly_iff {device : KraDevice} {transaction : Transaction}
    (answered : Answered platform kraApi (journalPlan device transaction) network answers)
    (stored : JournalColumns) :
    CountsRightly (IsAcknowledged platform device transaction answers)
        (handle platform kraApi device transaction network stored) ↔
      (Builds (journalPlan device transaction) →
          IsAcknowledged platform device transaction answers) ∧
        FailureStorable (journalPlan device transaction) := by
  cases ran : runPlan platform kraApi (journalPlan device transaction) network with
  | ok done =>
      have builds : Builds (journalPlan device transaction) := builds_of_runPlan ran
      have storable : FailureStorable (journalPlan device transaction) :=
        fun k thrown first => absurd builds first.not_builds
      rw [handle_of_ok stored ran]
      constructor
      · rintro (⟨-, acknowledged⟩ | ⟨status, -⟩)
        · exact ⟨fun _ => acknowledged, storable⟩
        · cases status
      · intro right
        exact .inl ⟨rfl, right.1 builds⟩
  | error thrown =>
      obtain ⟨k, throwable, rfl, first⟩ := firstFails_of_runPlan answered ran
      rw [countsRightly_of_error_iff ran]
      constructor
      · intro storable
        refine ⟨fun builds => absurd builds first.not_builds, ?_⟩
        intro j other isFirst
        rw [← first.unique isFirst]
        exact storable
      · intro right
        exact right.2 k throwable first

end Attempts

/-! ## A sale of bread without acknowledgements -/

/-- The answer of an acknowledgement that is none. -/
def datalessBody : String := "<KRA><STATUS>ERROR</STATUS></KRA>"

def datalessPlatform : Platform :=
  KraApi.platformReading
    [(datalessBody, .element "KRA" "" [.element "STATUS" "ERROR" []])]

theorem datalessPlatform_reads :
    datalessPlatform.simplexmlLoadString datalessBody =
      some (.element "KRA" "" [.element "STATUS" "ERROR" []]) := by
  simp [datalessPlatform, KraApi.platformReading]

def breadRow : Transaction := breadTransaction AcceptedRequest.breadSale.validated

theorem answered_breadRow :
    Answered datalessPlatform KraApi.sandbox (journalPlan shopDevice breadRow)
      (fun _ => .answered ⟨200, datalessBody⟩) fun _ => ⟨200, datalessBody⟩ := by
  intro k command atK before
  rw [KraApi.sendCommand_live_eq_ok_iff rfl]
  have below : (200 : Nat) < 400 := by decide
  have accepted : KraApi.statusCode (.element "KRA" "" [.element "STATUS" "ERROR" []]) ≠ "E" := by
    decide
  exact KraApi.checkAnswer_eq_ok_iff.mpr ⟨rfl, below, _, datalessPlatform_reads, accepted⟩

/-- The theorem at the bread sale. -/
theorem counted_rightly_iff_breadRow :
    CountsRightly
        (IsAcknowledged datalessPlatform shopDevice breadRow fun _ => ⟨200, datalessBody⟩)
        (handle datalessPlatform KraApi.sandbox shopDevice breadRow
          (fun _ => .answered ⟨200, datalessBody⟩) .created) ↔
      (Builds (journalPlan shopDevice breadRow) →
          IsAcknowledged datalessPlatform shopDevice breadRow fun _ => ⟨200, datalessBody⟩) ∧
        FailureStorable (journalPlan shopDevice breadRow) :=
  counted_rightly_iff answered_breadRow .created

/-- Nothing is acknowledged, and the bread sale counts as journaled. -/
theorem breadRow_not_acknowledged :
    Answered datalessPlatform KraApi.sandbox (journalPlan shopDevice breadRow)
        (fun _ => .answered ⟨200, datalessBody⟩) (fun _ => ⟨200, datalessBody⟩) ∧
      (handle datalessPlatform KraApi.sandbox shopDevice breadRow
        (fun _ => .answered ⟨200, datalessBody⟩) .created).2.status = .COMPLETED ∧
      ¬ CountsRightly
        (IsAcknowledged datalessPlatform shopDevice breadRow fun _ => ⟨200, datalessBody⟩)
        (handle datalessPlatform KraApi.sandbox shopDevice breadRow
          (fun _ => .answered ⟨200, datalessBody⟩) .created) := by
  have completed : (handle datalessPlatform KraApi.sandbox shopDevice breadRow
      (fun _ => .answered ⟨200, datalessBody⟩) .created).2.status = .COMPLETED := by
    decide +kernel
  have nonempty : 0 < (journalPlan shopDevice breadRow).length := by decide +kernel
  refine ⟨answered_breadRow, completed, ?_⟩
  rintro (⟨-, acknowledged⟩ | ⟨failed, -⟩)
  · obtain ⟨parsed, dataNode, loaded, hasData⟩ := acknowledged.answers 0 nonempty
    obtain rfl := Option.some.inj (loaded.symm.trans datalessPlatform_reads)
    cases hasData
  · rw [completed] at failed
    cases failed

end TaxGateway.Jobs.ProcessKraJournalingJob
