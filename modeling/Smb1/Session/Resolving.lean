import Smb1.Dfs.Resolver
import Smb1.Session.Transact

/-! A session as the network of a path resolver. All referrals are asked of the one server that
the session is connected to, whichever server a path names. -/
namespace Smb1.Session

def network : Dfs.Network Session where
  userDomain := userDomain
  ask _ path maxLevel s :=
    match getReferrals path maxLevel s with
    | .ok response s => (.ok response, s)
    | .error e s => (.error e, s)

end Smb1.Session
