import Mathlib.Algebra.Order.Ring.Rat
import Mathlib.Logic.Function.Basic
import NetProbe.CoreAuthProofs

/-!
# Client address and rate limit

`app/core/deps.py` and the rate limiter of `app/core/security.py`: the address a request is
counted and hashed under, and the sliding window over it.  The limiter keeps, for each key,
the times of its admitted calls in order; its clock is the monotonic one, in seconds, and its
readings are taken as the exact numbers they are.
-/

namespace NetProbeDeps

open NetProbePyText NetProbeConfig NetProbeCoreAuth

/-- What the program reads of an HTTP request: the address of the peer, headers and cookies
    by name. -/
structure Request where
  path : Str
  client_host : Option Str
  header : Str → Option Str
  cookie : Str → Option Str

/-- `get_real_client_ip(request)` -/
def getRealClientIp (py : Python) (settings : Settings) (request : Request) : Str :=
  let direct_ip := request.client_host.getD (str "unknown")
  if settings.trusted_proxy_ips.contains direct_ip then
    match request.header (str "x-forwarded-for") with
    | some (c :: cs) => strip py ((split ',' (c :: cs)).headD [])
    | _ => direct_ip
  else direct_ip

/-- `RateLimiter`: the limit and the windows. -/
structure RateLimiter where
  limit : Int
  windows : Str → List ℚ

/-- `RateLimiter.check(key)` at the monotonic time `now`: the answer and the limiter after it. -/
def RateLimiter.check (limiter : RateLimiter) (now : ℚ) (key : Str) : Bool × RateLimiter :=
  let hits := (limiter.windows key).dropWhile fun hit => hit < now - 60
  let set := fun hits => { limiter with windows := Function.update limiter.windows key hits }
  if limiter.limit ≤ hits.length then (false, set hits)
  else (true, set (hits ++ [now]))

end NetProbeDeps
