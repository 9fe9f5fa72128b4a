import SpotqPayment.Library.ExpiringStore

/-! The Redis client of the service. It answers with a default when its
connection is not open or a command fails, so that neither the cache nor the
lock stops a request. -/
namespace SpotqPayment

abbrev Redis := ExpiringStore String String

/-- The expiry of a key that is set for so many seconds. -/
def Redis.expiry (redis : Redis) (ttlSeconds : Nat) : Int := redis.now + 1000 * ttlSeconds

namespace RedisService

def get (reachable : Bool) (redis : Redis) (key : String) : Option String :=
  if reachable then redis.get? key else none

/-- `SET key value EX ttlSeconds`; without a ttl, or with one of zero, the key does not expire. -/
def set (reachable : Bool) (redis : Redis) (key value : String) (ttlSeconds : Option Nat) : Redis :=
  if reachable = false then redis
  else match ttlSeconds.filter (· ≠ 0) with
    | some seconds => redis.put key { value, expiresAt := some (redis.expiry seconds) }
    | none => redis.put key { value, expiresAt := none }

/-- `SET key locked NX EX ttlSeconds`. Redis raises an error for an expiry of zero. -/
def acquireLock (reachable : Bool) (redis : Redis) (key : String) (ttlSeconds : Nat) : Bool × Redis :=
  if reachable = false ∨ ttlSeconds = 0 then (true, redis)
  else if (redis.find? key).isSome then (false, redis)
  else (true, redis.put key { value := "locked", expiresAt := some (redis.expiry ttlSeconds) })

/-- `DEL key`, whoever set the key. -/
def releaseLock (reachable : Bool) (redis : Redis) (key : String) : Redis :=
  if reachable then redis.delete key else redis

variable {redis : Redis} {key : String} {ttlSeconds : Nat}

theorem acquireLock_free (hTtl : ttlSeconds ≠ 0) (hFree : redis.find? key = none) :
    acquireLock true redis key ttlSeconds =
      (true, redis.put key { value := "locked", expiresAt := some (redis.expiry ttlSeconds) }) := by
  unfold acquireLock
  rw [if_neg (not_or.mpr ⟨nofun, hTtl⟩), hFree]
  rfl

theorem acquireLock_taken (hTtl : ttlSeconds ≠ 0) (hTaken : redis.find? key ≠ none) :
    acquireLock true redis key ttlSeconds = (false, redis) := by
  unfold acquireLock
  rw [if_neg (not_or.mpr ⟨nofun, hTtl⟩), if_pos (Option.isSome_iff_ne_none.mpr hTaken)]

end RedisService
end SpotqPayment
