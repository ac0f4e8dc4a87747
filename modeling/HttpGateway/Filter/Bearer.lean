/-
The filter that asks for a bearer token.

* **bearerToken?** — the token of a request.
* **Bearer.filter** — lets a request pass whose token is one of those listed in the argument
  `tokens`; where that is missing, any token will do. The token is left for later filters.
-/
import HttpGateway.Filter.Basic
import HttpGateway.Http.Hop
import HttpGateway.Text.Numeral

namespace HttpGateway.Filter

open Http Request Text

/-- What stands before the token. -/
def bearerScheme : List Char := "Bearer ".toList

/-- The token in the first `Authorization` line. -/
def bearerToken? (h : Fields) : Option String :=
  (h.text? "authorization").bind fun s =>
    if bearerScheme.isPrefixOf s.toList then nonBlank? (s.toList.drop bearerScheme.length) else none

namespace Bearer

/-- The status for requests that are turned away: the argument `status`, if it is one. -/
def rejectionStatus (args : Args) : Status :=
  ((argument? args "status").bind fun s =>
    (unsigned? 65536 (trim s.toList)).bind Status.ofCode?).getD .unauthorized

/-- Whether a token will do. -/
def accepts (args : Args) (token : String) : Bool :=
  match argument? args "tokens" with
  | some listed => (commaEntries listed).contains token
  | none => true

/-- What becomes of a request. -/
def outcome (args : Args) (c : Context) : Outcome :=
  match bearerToken? c.fields with
  | none => .turnAway c (rejectionStatus args) "Unauthorized"
  | some token =>
    if accepts args token then .pass (c.setAttribute "auth.token" (.text token))
    else .turnAway c (rejectionStatus args) "Unauthorized"

/-- The filter that asks for a bearer token. -/
def filter : Filter where
  name := "AuthFilter"
  apply args _ c memory := (outcome args c, memory)

end Bearer

end HttpGateway.Filter
