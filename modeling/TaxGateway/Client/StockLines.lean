import TaxGateway.Client.SharedBaseUrl
import TaxGateway.Services.Simulation

/-!
Contract: the stock lines that `getInventoryData` makes of an answer.

Owns:
- the shape of an answer to `RECV_INVENTORY`, as the mock answer has it;
- that the loop goes through the `inventory` elements, not through their items: one
  blank line for the whole list, and the exact answers for which that is right.

Does not own: the commands for stock movements.
-/

namespace TaxGateway.Client

open TaxGateway.Php
open TaxGateway.Database
open TaxGateway.Effects
open TaxGateway.Services
open TaxGateway.Services.KraInventoryService
open TaxGateway.Services.Session

/-- An answer with one list of stock lines. -/
structure ListsStock (parsed : Xml) (items : List Xml) : Prop where
  status : parsed.childTextOr "STATUS" "UNKNOWN" = "P"
  inventory : ∃ text, inventoryNodes parsed = [.element "inventory" text items]
  items : ∀ item ∈ items, item.name = "item"

/-- What is read from an element that has none of the values. -/
def blankLine : StockLine := ⟨"", "", "", "", 0, "", ""⟩

/-- Of items only, no value is found by its name. -/
theorem child?_of_items {items : List Xml} (areItems : ∀ item ∈ items, item.name = "item")
    (tag text : String) {name : String} (other : name ≠ "item") :
    (Xml.element tag text items).child? name = none := by
  apply List.find?_eq_none.mpr
  intro item member
  rw [areItems item member]
  simpa using Ne.symm other

/-- The whole list is read as one blank line. -/
theorem stockLine_of_items {items : List Xml} (areItems : ∀ item ∈ items, item.name = "item")
    (tag text : String) : stockLine (.element tag text items) = blankLine := by
  have unread : ∀ name, name ≠ "item" → (Xml.element tag text items).child? name = none :=
    fun name other => child?_of_items areItems tag text other
  simp only [stockLine, Xml.childText, Xml.childFloat, unread "bhfId" (by decide),
    unread "itemClsCd" (by decide), unread "itemCd" (by decide), unread "itemNm" (by decide),
    unread "qty" (by decide), unread "updDt" (by decide), unread "lastSyncTime" (by decide)]
  rfl

section Retrieval

variable {collate : String → String} (world : World) (kraDevice : KraDevice)
  (filterData : Entries)

/-- The lines come from the answer that is returned with them. -/
theorem ensures_getInventoryData :
    Ensures
      (fun list => ∃ parsed, world.platform.simplexmlLoadString list.kraResponse = some parsed ∧
        (parsed.childTextOr "STATUS" "UNKNOWN" = "P" →
          list.inventory = (inventoryNodes parsed).map stockLine))
      (getInventoryData world kraDevice filterData : Service collate StockList) := by
  refine (ensures_raise _).bind fun pin hasPin => ?_
  refine Cell.ensures_restoring ?_
  refine (ensures_raise _).bind fun xmlPayload built => ?_
  refine (ensures_true _).bind fun response answered => ?_
  refine (ensures_parseXml world response.body).bind fun parsed loaded => ?_
  dsimp only
  split
  next => exact ensures_pure ⟨parsed, loaded, fun _ => rfl⟩
  next refused => exact ensures_pure ⟨parsed, loaded, fun accepted => absurd accepted refused⟩

/-- The stock lines of an answer are returned exactly when it has one item, and that
item has no value. -/
theorem stock_lines_kept_iff {session : Session collate} {list : StockList}
    (returned : (exec (getInventoryData world kraDevice filterData) session).1 = .ok list)
    {parsed : Xml} (loaded : world.platform.simplexmlLoadString list.kraResponse = some parsed)
    {items : List Xml} (stock : ListsStock parsed items) :
    list.inventory = items.map stockLine ↔
      ∃ item, items = [item] ∧ stockLine item = blankLine := by
  obtain ⟨other, isLoaded, lines⟩ :=
    ensures_getInventoryData world kraDevice filterData session list returned
  obtain rfl := Option.some.inj (loaded.symm.trans isLoaded)
  obtain ⟨text, inventory⟩ := stock.inventory
  rw [lines stock.status, inventory, List.map_singleton, stockLine_of_items stock.items,
    eq_comm, List.map_eq_singleton_iff]

end Retrieval

/-! ### The stock of the mock answer -/

def mockItems : List XmlDocuments.Node :=
  [KraApi.mockStockItem "00" "3026530000" "ITEM001" "Sample Product" "150",
    KraApi.mockStockItem "01" "3026530001" "ITEM002" "Another Product" "75"]

/-- The elements of an indented list. -/
def listXml (depth : Nat) (name : String) (children : List XmlDocuments.Node) : Xml :=
  .element name (String.ofList (MockTree.directText (MockTree.indented depth children)))
    (MockTree.elementsOf (MockTree.indented depth children))

/-- The document of the client's own answer to `RECV_INVENTORY`. -/
def mockStock : Xml :=
  listXml 1 "root"
    [MockTree.field "STATUS" "P",
      MockTree.group 2 "DATA" [MockTree.group 3 "inventory" mockItems]]

theorem elements_mockRecvInventory :
    MockTree.elements KraApi.mockRecvInventory = [mockStock] := rfl

/-- Its items. -/
def mockStockLines : List Xml := MockTree.elementsOf (MockTree.indented 3 mockItems)

theorem listsStock_mockStock : ListsStock mockStock mockStockLines where
  status := rfl
  inventory := ⟨_, rfl⟩
  items := by
    intro item member
    have names : mockStockLines.map Xml.name = ["item", "item"] := rfl
    have named : item.name ∈ ["item", "item"] := names ▸ List.mem_map_of_mem member
    simpa using named

/-- KRA answers every command with it. -/
def stockWorld : World :=
  { offlineWorld with
    platform := KraApi.platformReading [(mockBody KraApi.mockRecvInventory, mockStock)]
    transport := fun _ => .answered ⟨200, mockBody KraApi.mockRecvInventory⟩ }

theorem stockWorld_reads :
    stockWorld.platform.simplexmlLoadString (mockBody KraApi.mockRecvInventory) =
      some mockStock := by
  simp [stockWorld, KraApi.platformReading]

/-- Whatever is sent to KRA gets that answer, which passes the client's checks. -/
theorem returns_sendCommand_stockWorld {β : Type} {session : Session id} {endpoint : String}
    {xmlPayload : KraXml} {next : HttpResponse → Service id β}
    (live : session.gateway.kraApi.simulation = none)
    (rest : ∀ after, Returns (next ⟨200, mockBody KraApi.mockRecvInventory⟩) after) :
    Returns (sendCommand stockWorld endpoint xmlPayload false >>= next) session := by
  have below : (200 : Nat) < 400 := by decide
  have accepted : KraApi.statusCode mockStock ≠ "E" := by decide
  have answered : KraApi.checkAnswer stockWorld.platform (stockWorld.transport
      session.calls.length) = .ok ⟨200, mockBody KraApi.mockRecvInventory⟩ :=
    KraApi.checkAnswer_eq_ok_iff.mpr ⟨rfl, below, mockStock, stockWorld_reads, accepted⟩
  have sent := exec_transmit stockWorld endpoint (.xml xmlPayload) false
    (fun kraApi transport => KraClient.sendCommand stockWorld.platform kraApi endpoint xmlPayload
      false fun _ => transport) session
  rw [KraClient.sendCommand_eq, KraApi.sendCommand_live live, answered] at sent
  exact (returns_bind_iff_of_ok sent).mpr (rest _)

theorem returns_getInventoryData_stockWorld :
    Returns (getInventoryData stockWorld shopDevice [] : Service id StockList) idleSession := by
  rw [getInventoryData, returns_raise_bind_iff]
  refine ⟨_, rfl, ?_⟩
  rw [returns_withBaseUrl_iff]
  refine ⟨_, rfl, ?_⟩
  rw [returns_raise_bind_iff]
  refine ⟨_, rfl, ?_⟩
  apply returns_sendCommand_stockWorld rfl
  intro after
  rw [returns_parseXml_bind_iff]
  exact ⟨mockStock, stockWorld_reads, returns_pure _ _⟩

/-- One blank line is returned for it. -/
theorem exists_stock_list :
    ∃ list, (exec (getInventoryData stockWorld shopDevice []) idleSession).1 = .ok list ∧
      list.kraResponse = mockBody KraApi.mockRecvInventory ∧
      list.inventory.map StockLine.itemCode = [""] := by
  obtain ⟨list, returned⟩ := returns_getInventoryData_stockWorld
  obtain ⟨parsed, loaded, lines⟩ :=
    ensures_getInventoryData stockWorld shopDevice [] idleSession list returned
  have body : list.kraResponse = mockBody KraApi.mockRecvInventory := by
    by_contra different
    have unread : stockWorld.platform.simplexmlLoadString list.kraResponse = none := by
      simp [stockWorld, KraApi.platformReading, different]
    rw [unread] at loaded
    cases loaded
  rw [body, stockWorld_reads] at loaded
  obtain rfl := Option.some.inj loaded
  refine ⟨list, returned, body, ?_⟩
  rw [lines listsStock_mockStock.status]
  rfl

theorem stock_lines_kept_iff_mockStock :
    ∃ list, (exec (getInventoryData stockWorld shopDevice []) idleSession).1 = .ok list ∧
      (list.inventory = mockStockLines.map stockLine ↔
        ∃ item, mockStockLines = [item] ∧ stockLine item = blankLine) := by
  obtain ⟨list, returned, body, -⟩ := exists_stock_list
  have loaded : stockWorld.platform.simplexmlLoadString list.kraResponse = some mockStock := by
    rw [body]
    exact stockWorld_reads
  exact ⟨list, returned,
    stock_lines_kept_iff stockWorld shopDevice [] returned loaded listsStock_mockStock⟩

/-- The two lines of the mock answer are not returned. -/
theorem mockStock_lines_lost :
    ∃ list, (exec (getInventoryData stockWorld shopDevice []) idleSession).1 = .ok list ∧
      stockWorld.platform.simplexmlLoadString list.kraResponse = some mockStock ∧
      ListsStock mockStock mockStockLines ∧
      (mockStockLines.map stockLine).map StockLine.itemCode = ["ITEM001", "ITEM002"] ∧
      list.inventory.map StockLine.itemCode = [""] ∧
      list.inventory ≠ mockStockLines.map stockLine := by
  obtain ⟨list, returned, body, codes⟩ := exists_stock_list
  have loaded : stockWorld.platform.simplexmlLoadString list.kraResponse = some mockStock := by
    rw [body]
    exact stockWorld_reads
  have written : (mockStockLines.map stockLine).map StockLine.itemCode = ["ITEM001", "ITEM002"] :=
    rfl
  refine ⟨list, returned, loaded, listsStock_mockStock, written, codes, ?_⟩
  intro same
  rw [same, written] at codes
  exact absurd codes (by decide)

end TaxGateway.Client
