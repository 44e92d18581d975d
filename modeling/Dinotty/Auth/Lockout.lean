/-
This file is the brute-force lockout of each address and of everybody. The clock counts milliseconds
since the epoch.
-/

import Dinotty.Foundation.IpAddr
import Dinotty.Foundation.KeyMap

namespace Dinotty.Auth

structure AuthSettings where
  trustedProxies : List (List Char) := []
  ipWhitelist : List (List Char) := []
  lockoutStrategy : String := "ip"
  lockoutMaxFailures : Nat := 5
  lockoutSecs : Nat := 60
  globalLockoutMaxFailures : Nat := 50
  globalLockoutSecs : Nat := 300
  loginMethod : String := "token"

structure FailRecord where
  count : Nat
  lastFail : Nat
  deriving DecidableEq

/-- The counters. The one for everybody and the start of its window start at zero. -/
structure Lockouts where
  failMap : KeyMap IpAddr FailRecord := ∅
  globalFailCount : Nat := 0
  globalFailWindowStart : Nat := 0

def seconds (milliseconds : Nat) : Nat := milliseconds / 1000

namespace Lockouts

/-- Record a failed attempt of an address. Counters have 32 bits. -/
def recordAuthFailure (lockouts : Lockouts) (now : Nat) (ip : IpAddr) (globalLockoutSecs : Nat) :
    Lockouts :=
  let count := ((lockouts.failMap.lookup ip).map FailRecord.count).getD 0
  let failMap := lockouts.failMap.insert ip { count := (count + 1) % 2 ^ 32, lastFail := now }
  if globalLockoutSecs < seconds now - lockouts.globalFailWindowStart then
    { failMap, globalFailCount := 1, globalFailWindowStart := seconds now }
  else
    { lockouts with failMap, globalFailCount := (lockouts.globalFailCount + 1) % 2 ^ 32 }

/-- The seconds after which to retry, for an address that is locked out. -/
def checkLockout (lockouts : Lockouts) (now : Nat) (realIp : IpAddr) (settings : AuthSettings) :
    Lockouts × Option Nat :=
  match settings.lockoutStrategy with
  | "off" => (lockouts, none)
  | "global" =>
      let elapsed := seconds now - lockouts.globalFailWindowStart
      if settings.globalLockoutMaxFailures ≤ lockouts.globalFailCount ∧
          elapsed < settings.globalLockoutSecs then
        (lockouts, some (settings.globalLockoutSecs - elapsed))
      else (lockouts, none)
  | _ =>
      match lockouts.failMap.lookup realIp with
      | none => (lockouts, none)
      | some record =>
          if settings.lockoutMaxFailures ≤ record.count then
            let elapsed := seconds (now - record.lastFail)
            if elapsed < settings.lockoutSecs then (lockouts, some (settings.lockoutSecs - elapsed))
            else ({ lockouts with failMap := lockouts.failMap.erase realIp }, none)
          else (lockouts, none)

end Lockouts

end Dinotty.Auth
