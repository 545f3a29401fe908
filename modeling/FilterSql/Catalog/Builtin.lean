import FilterSql.Catalog.Basic

/-!
# Built-in record types
-/

namespace FilterSql.Catalog

open Query

def transactionLine : CatalogEntry where
  table := "transactionline"
  header := some (.ofFields "transaction" "th" "transaction"
    ["type", "trandate", "tranid", "entity", "postingperiod", "subsidiary", "currency"])

def plannedRevenue : CatalogEntry where
  table := "revenueplanplannedrevenue"
  header := some (.ofFields "revenueplan" "rp" "revenueplan"
    ["recordnumber", "createdfrom", "revrecstartdate", "revrecenddate", "revenueplancurrency",
     "amount", "exchangerate", "revenueplantype", "lastmodifieddate", "entity", "subsidiary",
     "currency"])

def customerStage (stage : String) : CatalogEntry where
  table := "customer"
  implicitFilters := [⟨"stage", stage⟩]

def selfNamed : List String :=
  ["transaction", "revenuearrangement", "revenueelement", "revenueplanstatus", "revenueplan",
   "customer", "vendor", "employee", "contact", "partner", "job", "entitygroup", "competitor",
   "item", "account", "accountingperiod", "bin", "location", "department", "classification",
   "currency", "subsidiary", "customlist", "budget", "campaign", "file", "folder",
   "calendarevent", "task", "phonecall", "message", "note", "supportcase", "issue", "solution",
   "topic", "campaignresponse"]

def itemSubtypes : List String :=
  ["inventoryitem", "noninventoryitem", "serviceitem", "assemblyitem", "kititem", "downloaditem",
   "giftcertificateitem", "discountitem", "markupitem", "paymentitem", "subtotalitem",
   "expenseitem", "descriptionitem", "otherchargeitem"]

def builtinEntries : List (String × CatalogEntry) :=
  [("transactionline", transactionLine), ("revenueplanplannedrevenue", plannedRevenue),
   ("lead", customerStage "LEAD"), ("prospect", customerStage "PROSPECT")] ++
  selfNamed.map (fun name => (name, { table := name })) ++
  itemSubtypes.map fun name => (name, { table := "item" })

def builtin : Catalog :=
  build (.ofList builtinEntries)

def configured (entries : List (String × CatalogEntry)) : Except QueryError Catalog :=
  builtin.extend (Keyed.ofList entries)

def configuredFailure : String := "Invalid catalog configuration"

end FilterSql.Catalog
