import FileScanner.Lib.Retry
import FileScanner.Ssrf

namespace FileScanner
open Collections Fallible Queues
set_option autoImplicit true

/-- What one delivery meets: the receiver behind its network, and `sign_webhook`. -/
structure DeliveryEnv where
  net : Network
  sign : String → Bytes → Except Exc (Option String)

structure Post where
  dial : Dial
  headers : Dict String String
  body : Bytes
  answer : Except Exc Response

/-- How a delivery returns; a rejected host is logged and dropped. -/
inductive Delivery where
  | delivered
  | dropped
  deriving DecidableEq, Repr

def webhookBody (py : Python) (payload : Dict String Json) : Bytes :=
  encode (py.dumps (.obj payload))

/-- The headers of a callback, with the token when there is one. -/
def webhookHeaders (token : Option String) : Dict String String :=
  let headers := [("Content-Type", "application/json")]
  match token with
  | none | some "" => headers
  | some token => headers ++ [("Authorization", "Bearer " ++ token)]

/-- The checks on the answer: no redirect, and no error status. -/
def requireAccepted (py : Python) (response : Response) : Except Exc Unit := do
  raiseIf (response.isRedirect = true)
    (.requestException ("webhook returned redirect " ++ toString response.statusCode ++ " to "
      ++ py.repr (response.location.elim .null .str) ++ "; not followed"))
  raiseForStatus response

def retire : Except Exc Unit → Except Exc Delivery
  | .ok () => .ok .delivered
  | .error (.ssrfValidationError _) => .ok .dropped
  | .error e => .error e

def deliverWebhook (py : Python) (settings : Settings) (env : DeliveryEnv) (webhookUrl : String)
    (payload : Dict String Json) (posts : List Post) : Except Exc Delivery × List Post :=
  let body := webhookBody py payload
  match env.sign webhookUrl body with
  | .error e => (.error e, posts)
  | .ok token =>
    let (answer, dials) := requestWithRedirects py settings env.net false webhookUrl
    (retire (answer >>= requireAccepted py),
      posts ++ dials.map (fun dial => ⟨dial, webhookHeaders token, body, answer⟩))

/-- `deliver_webhook` as an actor: each invocation meets an environment of its own. -/
def webhookActor (py : Python) (settings : Settings) (envs : Nat → DeliveryEnv)
    (webhookUrl : String) (payload : Dict String Json) : Actor (List Post) Exc Delivery :=
  fun retries posts => deliverWebhook py settings (envs retries) webhookUrl payload posts

end FileScanner
