import TaxGateway.Http.Authorization

/-!
Contract: what `POST /devices/initialize` accepts.

Owns:
- `authorize()` and `rules()` of the request;
- what an accepted input is known to hold.

Does not own: the initialisation itself.
-/

namespace TaxGateway.Http.InitializeKraDeviceRequest

open TaxGateway.Php
open TaxGateway.Validation
open TaxGateway.Database

/-- The stored PINs, as `Rule::exists('taxpayer_pins', 'pin')` asks for them. -/
def pinExists (database : Tenants) (pin : String) : Bool :=
  database.taxpayerPins.any fun taxpayer => taxpayer.pin = pin

def authorize (database : Tenants) (apiClient : Option ApiClient) (input : Entries) : Bool :=
  match activeClient apiClient with
  | none => false
  | some client =>
      let requestedPin := (read input "taxpayerPin").getD .null
      if requestedPin.isEmpty then false
      else
        (database.taxpayerPins.any fun taxpayer =>
            boundText requestedPin = some taxpayer.pin) &&
          isPinAllowedForClient database requestedPin client

def rules (database : Tenants) : List Attribute :=
  [.leaf ⟨"taxpayerPin", [.required, .string, .max 20, .matching (pinExists database)]⟩,
    .leaf ⟨"branchOfficeId", [.required, .string, .max 10]⟩,
    .leaf ⟨"deviceType", [.required, .string, .oneOf ["OSCU", "VSCU"]]⟩,
    .leaf ⟨"dvcSrlNo", [.required, .string, .max 100]⟩]

/-- The fields whose rules fail. -/
def failedFields (database : Tenants) (input : Entries) : List String :=
  ((rules database).filter fun attr => !attr.accepts input).map Attribute.name

end TaxGateway.Http.InitializeKraDeviceRequest
