import TokenEndpoint.Fields
import TokenEndpoint.Settings.Basic
/-!
The static headers of an exchange: who the client is, and the correlation id under which the server
and the logs know the exchange.
-/

namespace TokenEndpoint

namespace HeaderName

def correlationId : String := "client-request-id"

def returnCorrelationId : String := "return-client-request-id"

def sku : String := "x-client-SKU"

def version : String := "x-client-VER"

def os : String := "x-client-OS"

def contentType : String := "Content-Type"

def authorization : String := "Authorization"

def userAgent : String := "User-Agent"

def requestId : String := "x-ms-request-id"

def clientTelemetry : String := "x-ms-clitelem"

end HeaderName

/-- A supply of fresh correlation ids. -/
structure IdSupply where
  name : Nat → String
  next : Nat := 1

structure RequestHeaders where
  correlationId : String
  extra : Fields String String := []
  settings : Settings := {}

namespace RequestHeaders

/-- Headers with a fresh correlation id if none is given or the given one is empty. -/
def create (ids : IdSupply) (correlationId : Option String) (extra : List (String × String))
    (settings : Settings) : RequestHeaders × IdSupply :=
  let extra := Fields.ofPairs extra
  match correlationId with
  | some id =>
    if id.isEmpty then
      ({ correlationId := ids.name ids.next, extra, settings }, { ids with next := ids.next + 1 })
    else ({ correlationId := id, extra, settings }, ids)
  | none =>
    ({ correlationId := ids.name ids.next, extra, settings }, { ids with next := ids.next + 1 })

/-- The headers in order on a platform; extra headers take the place of those of the same name. -/
def fields (h : RequestHeaders) (platform : String) : Fields String String :=
  let base := [(HeaderName.sku, h.settings.clientSku), (HeaderName.version, h.settings.clientVersion),
    (HeaderName.os, if platform.isEmpty then "unknown" else platform),
    (HeaderName.correlationId, h.correlationId)]
  let base :=
    if h.settings.returnCorrelationId then base ++ [(HeaderName.returnCorrelationId, "true")] else base
  Fields.setAll base h.extra

end RequestHeaders

end TokenEndpoint
