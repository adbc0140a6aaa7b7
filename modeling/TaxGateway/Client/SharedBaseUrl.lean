import TaxGateway.Client.Calls
import TaxGateway.Foundations.Transitions
import TaxGateway.Services.Signable

/-!
Contract: the base URL of the shared client across service calls.

Owns:
- the calls that hand the client back as they got it: all of them, but for a sale
  whose payload cannot be built;
- the sessions throughout which the base URL stays as it was;
- a sale that leaves the client on a till's own URL.

Does not own: where the commands are sent meanwhile.
-/

namespace TaxGateway.Client

open TaxGateway.Php
open TaxGateway.Database
open TaxGateway.Effects
open TaxGateway.Services
open TaxGateway.Services.Session
open TaxGateway.Transitions

variable {collate : String → String}

/-- A sale whose target URL was set already, or is never set because the device has
no taxpayer or the URL is no text, or whose data make a receipt. Every other call. -/
def HandsBack (world : World) (current : String) : ServiceCall → Prop
  | .processTransaction kraDevice transactionData =>
      kraDevice.taxpayerPin = none ∨
        (∀ url, KraSalesService.targetBaseUrl world.config kraDevice = .ok url → url = current) ∨
        KraSalesService.Signable (.arr transactionData)
  | _ => True

theorem pin_eq_error_iff {kraDevice : KraDevice} :
    (∃ thrown, kraDevice.pin = .error thrown) ↔ kraDevice.taxpayerPin = none := by
  unfold KraDevice.pin
  cases kraDevice.taxpayerPin <;> simp

/-- A sale hands the client back exactly if its payload is built, or nothing was
switched. -/
theorem baseUrl_processTransaction_iff (world : World) (session : Session collate)
    (kraDevice : KraDevice) (transactionData : Entries) :
    baseUrl.get (exec (processTransaction world kraDevice transactionData) session).2 =
        baseUrl.get session ↔
      HandsBack world (baseUrl.get session) (.processTransaction kraDevice transactionData) := by
  unfold HandsBack
  cases hasPin : kraDevice.pin with
  | error thrown =>
      rw [exec_processTransaction_of_noPin hasPin]
      simp [pin_eq_error_iff.mp ⟨thrown, hasPin⟩]
  | ok pin =>
      have owned : kraDevice.taxpayerPin ≠ none := by
        intro missing
        obtain ⟨thrown, noPin⟩ := pin_eq_error_iff.mpr missing
        rw [hasPin] at noPin
        cases noPin
      cases target : KraSalesService.targetBaseUrl world.config kraDevice with
      | error thrown =>
          rw [exec_processTransaction_of_noTarget hasPin target]
          simp [target]
      | ok url =>
          have buildsIff : (∃ xmlPayload, KraSalesService.signingXml
              (saleOf world kraDevice transactionData) = .ok xmlPayload) ↔
                KraSalesService.Signable (.arr transactionData) :=
            KraSalesService.signingXml_returns_iff hasPin
          cases signed : KraSalesService.signingXml (saleOf world kraDevice transactionData) with
          | error thrown =>
              have unsignable : ¬ KraSalesService.Signable (.arr transactionData) := by
                rw [← buildsIff, signed]
                simp
              rw [exec_processTransaction_of_unsigned hasPin target signed]
              simp only [target, owned, unsignable, false_or, or_false, Except.ok.injEq, forall_eq']
              rfl
          | ok xmlPayload =>
              have signable := buildsIff.mp ⟨xmlPayload, signed⟩
              rw [exec_processTransaction_of_signed hasPin target signed]
              exact ⟨fun _ => .inr (.inr signable), fun _ => baseUrl.get_put _ _⟩

/-- What a single call does to the base URL. -/
theorem baseUrl_leaves_iff (world : World) (session : Session collate) (call : ServiceCall) :
    baseUrl.get (leaves world session call) = baseUrl.get session ↔
      HandsBack world (baseUrl.get session) call := by
  cases call with
  | processTransaction kraDevice transactionData =>
      exact baseUrl_processTransaction_iff world session kraDevice transactionData
  | initializeDevice data =>
      exact iff_of_true (KraDeviceService.baseUrl_initializeDevice world data session) trivial
  | getDeviceStatus kraDevice =>
      exact iff_of_true
        (KraDeviceService.getDeviceStatus_sendsTo world kraDevice session).keepsUrl trivial
  | _ => exact iff_of_true (leaves_sendsTo world session rfl).keepsUrl trivial

/-- Every call of a session is made. -/
theorem takes_of_mem {start : Session collate} {labels : List (World × ServiceCall)}
    {label : World × ServiceCall} (member : label ∈ labels) :
    ∃ source target, Takes step start labels source label target := by
  have returns : ∀ (rest : List (World × ServiceCall)) (session : Session collate),
      ∃ final, run step session rest = some final := by
    intro rest
    induction rest with
    | nil => exact fun session => ⟨session, rfl⟩
    | cons head tail inductionHypothesis =>
        exact fun session => inductionHypothesis (leaves head.1 session head.2)
  obtain ⟨before, after, rfl⟩ := List.append_of_mem member
  obtain ⟨source, ran⟩ := returns before start
  refine ⟨source, leaves label.1 source label.2, before, ?_, ran, rfl⟩
  exact ⟨after, by rw [List.append_assoc, List.singleton_append]⟩

theorem mem_of_takes {start source target : Session collate}
    {labels : List (World × ServiceCall)} {label : World × ServiceCall}
    (takes : Takes step start labels source label target) : label ∈ labels := by
  obtain ⟨before, within, -, -⟩ := takes
  exact within.subset (List.mem_append_right before (List.mem_singleton_self label))

/-- A call hands the client back exactly if it meets the condition, and so the client
keeps its base URL throughout exactly those sessions whose calls all meet it. -/
theorem client_handed_back_iff (start : Session collate) (labels : List (World × ServiceCall)) :
    (∀ world (session : Session collate) call,
        baseUrl.get (leaves world session call) = baseUrl.get session ↔
          HandsBack world (baseUrl.get session) call) ∧
      ((∀ reached, Reaches step start labels reached →
          baseUrl.get reached = baseUrl.get start) ↔
        ∀ label ∈ labels, HandsBack label.1 (baseUrl.get start) label.2) := by
  refine ⟨baseUrl_leaves_iff, ?_⟩
  have keepsIff : ∀ (source : Session collate) label target,
      baseUrl.get source = baseUrl.get start → step source label = some target →
        (baseUrl.get target = baseUrl.get start ↔
          HandsBack label.1 (baseUrl.get start) label.2) := by
    rintro source label target same ⟨⟩
    rw [← same]
    exact baseUrl_leaves_iff label.1 source label.2
  have exactRun := @forall_reaches_iff_forall_takes _ _ step start labels
    (fun reached => baseUrl.get reached = baseUrl.get start)
    (fun _ label => HandsBack label.1 (baseUrl.get start) label.2) rfl keepsIff
  refine exactRun.trans ⟨?_, ?_⟩
  · intro met label member
    obtain ⟨source, target, takes⟩ := takes_of_mem member
    exact met source label target takes
  · intro met source label target takes
    exact met label (mem_of_takes takes)

/-! ## A till's own URL -/

/-- A till of the VSCU kind. -/
def vscuTill : KraDevice := { shopDevice with deviceType := "VSCU" }

theorem ownerExists_of_none :
    ∀ device ∈ ([] : List KraDeviceRow),
      device.taxpayerPinId ∈ ([] : List TaxpayerPin).map TaxpayerPin.id := by
  simp

def noTenants : Tenants :=
  ⟨[], [], [], List.nodup_nil, List.nodup_nil, List.nodup_nil, List.nodup_nil,
    ownerExists_of_none⟩

/-- Nothing stored, and a client for the sandbox. -/
def idleSession : Session id :=
  ⟨⟨TransactionsTable.empty id, [], KraApi.sandbox⟩, noTenants, []⟩

/-- A sale of an unknown receipt type. -/
def invalidTypeSale : Entries :=
  [(.str "internalReceiptNumber", .str "INV005"), (.str "receiptType", .str "INVALID_TYPE"),
    (.str "transactionType", .str "SALE")]

theorem invalidTypeSale_keeps_till_url :
    let left := leaves offlineWorld idleSession (.processTransaction vscuTill invalidTypeSale)
    baseUrl.get left = "http://127.0.0.1:8088" ∧ baseUrl.get left ≠ baseUrl.get idleSession := by
  decide +kernel

end TaxGateway.Client
