import TaxGateway.Foundations.Php
import TaxGateway.Foundations.NumberText
import TaxGateway.Foundations.ArrayMerge
import TaxGateway.Foundations.Formats
import TaxGateway.Foundations.Decimals
import TaxGateway.Foundations.SignificantDigits
import TaxGateway.Foundations.WrittenDates
import TaxGateway.Foundations.CarriedDates
import TaxGateway.Foundations.Transitions
import TaxGateway.Foundations.Effects
import TaxGateway.Foundations.XmlDocuments
import TaxGateway.Foundations.XmlReading
import TaxGateway.Foundations.Validation
import TaxGateway.Foundations.LooseEquality
import TaxGateway.Foundations.PercentEncoding
import TaxGateway.Database.Schema
import TaxGateway.Database.Tenants
import TaxGateway.Http.ProcessTransactionRequest
import TaxGateway.Http.ReconciledTotals
import TaxGateway.Http.LabelSums
import TaxGateway.Http.TaxDesignations
import TaxGateway.Http.CreditNotes
import TaxGateway.Http.Authorization
import TaxGateway.Http.Endpoints
import TaxGateway.Http.InitializeKraDeviceRequest
import TaxGateway.Http.ServiceRequests
import TaxGateway.Access.Permissions
import TaxGateway.Access.Isolation
import TaxGateway.Services.KraApi
import TaxGateway.Services.KraClient
import TaxGateway.Exceptions.KraApiException
import TaxGateway.Http.Pipeline
import TaxGateway.Http.ErrorEnvelope
import TaxGateway.Services.KraFields
import TaxGateway.Services.KraSalesService
import TaxGateway.Services.Signable
import TaxGateway.Services.Payloads
import TaxGateway.Services.Session
import TaxGateway.Services.Simulation
import TaxGateway.Services.KraItemService
import TaxGateway.Services.KraInventoryService
import TaxGateway.Services.KraPurchaseService
import TaxGateway.Services.KraReportService
import TaxGateway.Services.KraDeviceService
import TaxGateway.Client.Calls
import TaxGateway.Client.SharedBaseUrl
import TaxGateway.Client.Targets
import TaxGateway.Client.Listings
import TaxGateway.Client.StockLines
import TaxGateway.Devices.ActivationRecovery
import TaxGateway.Devices.StatusChecks
import TaxGateway.Devices.StatusVerdicts
import TaxGateway.Client.WireFormat
import TaxGateway.Client.XmlRoundTrip
import TaxGateway.Jobs.ProcessKraJournalingJob
import TaxGateway.Jobs.FailureRecording
import TaxGateway.Jobs.Acknowledgements
import TaxGateway.Jobs.JournalContent
import TaxGateway.Jobs.JournalTotals
import TaxGateway.Journaling.Attempts
import TaxGateway.Journaling.Status
import TaxGateway.Journaling.Submission
import TaxGateway.Sales.Recording
import TaxGateway.Sales.QrCodes
import TaxGateway.Sales.ReceiptDates
import TaxGateway.Sales.Gateway
import TaxGateway.Sales.Projection
import TaxGateway.Sales.Ledger
import TaxGateway.Sales.RowJournals
import TaxGateway.Sales.SentJobs
import TaxGateway.Sales.Workers
import TaxGateway.Sales.Signatures
import TaxGateway.Sales.Atomicity
import TaxGateway.Sales.TaxFields
import TaxGateway.Journaling.ItemNumbers
import TaxGateway.Client.SentCommands
import TaxGateway.Client.SimulatedMethods
import TaxGateway.Client.SimulationMode
import TaxGateway.Devices.Initialisation
import TaxGateway.Client.Footprints
import TaxGateway.Http.Controllers
import TaxGateway.Access.Server
import TaxGateway.Access.Tenancy
import TaxGateway.Access.SignedSales
import TaxGateway.Access.Registry
import TaxGateway.Access.Clearances
import TaxGateway.Access.SaleCalls
import TaxGateway.Access.Deployment
import TaxGateway.Access.JournaledSales
import TaxGateway.Access.SoldItems
import TaxGateway.Access.AttemptOutcomes
import TaxGateway.Sales.SignedTaxTables
import TaxGateway.Client.StockMovements
import TaxGateway.Client.PluReports
import TaxGateway.Client.DailyReports
