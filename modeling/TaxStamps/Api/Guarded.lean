import TaxStamps.Api.Pbac
import TaxStamps.Api.Routes

/-!
# The routes behind their guards

`deps.py` and the first line of every handler. A route that writes for a person
verifies the bearer token, asks the policy engine, and takes the subject from the
token. The scans have their own credentials, and the events are not requests; no
policy is asked for them.
-/

namespace TaxStamps.Guarded

open Api Auth Pbac

/-- What a route asks the policy for. -/
def need (resource action classification : String) : Option Need :=
  some ⟨py resource, py action, py classification⟩

/-- The arguments of `require_policy` in each route. -/
def needOf : Request → Option Need
  | .declaration .. => need "assessment" "create" "INTERNAL"
  | .declarationEvent .. => none
  | .assessment .. => need "assessment" "create" "CONFIDENTIAL"
  | .decision .. => need "assessment" "approve" "CONFIDENTIAL"
  | .paymentIntent .. => need "payment" "create" "FIDUCIARY_SEGREGATED"
  | .receipt .. => need "payment" "settle" "FIDUCIARY_SEGREGATED"
  | .batch .. => need "batch" "issue" "CONFIDENTIAL"
  | .issue .. => need "batch" "issue" "CONFIDENTIAL"
  | .finalize .. => need "batch" "issue" "CONFIDENTIAL"
  | .inspection .. => need "batch" "inspect" "CONFIDENTIAL"
  | .activate .. => need "batch" "activate" "CONFIDENTIAL"
  | .verify .. => none
  | .verifyPublic .. => none
  | .void .. => need "stamp" "void" "CONFIDENTIAL"

/-- The request with `identity.subject` for its subject. -/
def onBehalf (subject : PyStr) : Request → Request
  | .declaration _ body => .declaration subject body
  | .assessment _ idemKey body => .assessment subject idemKey body
  | .decision _ assessmentId decision reason => .decision subject assessmentId decision reason
  | .finalize _ batchId => .finalize subject batchId
  | .inspection _ batchId body => .inspection subject batchId body
  | .activate _ batchId => .activate subject batchId
  | .void _ serial body => .void subject serial body
  | request => request

/-- What the routes are deployed with. -/
structure Deployment where
  env : Env
  interpreter : Scanner.Interpreter
  keyring : Option Keyring
  settings : OidcSettings

/-- A request on the wire: the clock, the authorization header, and the request, with
any subject. -/
structure Call where
  occasion : Occasion
  now : Int
  authorization : PyStr
  request : Request

/-- The policy engine and the stored rows. -/
structure Service where
  engine : PolicyEngine
  db : Db

variable (deployment : Deployment)

/-- `get_identity` for a call. -/
def identify (call : Call) : Result Identity :=
  getIdentity deployment.interpreter deployment.env.unicode deployment.keyring deployment.settings call.now
    call.authorization

/-- The guards of a call, and the engine after them. -/
def guarded (engine : PolicyEngine) (call : Call) : Result Request × PolicyEngine :=
  match needOf call.request with
  | none => (.ok call.request, engine)
  | some need =>
    match identify deployment call with
    | .error problem => (.error problem, engine)
    | .ok identity =>
      match requirePolicy engine identity need with
      | (.ok _, engine) => (.ok (onBehalf identity.subject call.request), engine)
      | (.error problem, engine) => (.error problem, engine)

/-- One call. -/
def serve (service : Service) (call : Call) : Service :=
  match guarded deployment service.engine call with
  | (.ok request, engine) => ⟨engine, submit deployment.env call.occasion request service.db⟩
  | (.error _, engine) => ⟨engine, service.db⟩

/-- Any number of calls, from the empty database. -/
def serveAll (engine : PolicyEngine) (calls : List Call) : Service :=
  calls.foldl (serve deployment) ⟨engine, Db.empty⟩

end TaxStamps.Guarded
