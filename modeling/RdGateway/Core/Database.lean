import RdGateway.Wirekit.Codec

/-!
# Database records and queries

The records that authentication and access control read, and the queries they
send. A provider is any object that answers the queries.
-/

set_option autoImplicit false

namespace RdGateway.Core

open Wirekit

structure User where
  id : Int
  username : String
  ntHash : Bytes
  enabled : Bool
  passwordHash : Option String
deriving Repr, DecidableEq

structure Group where
  id : Int
  name : String
deriving Repr, DecidableEq

structure AclRule where
  id : Int
  priority : Int
  userId : Option Int
  groupId : Option Int
  targetHost : Option String
  targetPort : Option Int
  action : String
deriving Repr, DecidableEq

inductive DbError where
  | database (message : String)
  | notFound (what : String)
  | migration (message : String)
deriving Repr, DecidableEq

structure DbProvider where
  getUserByUsername : String → Except DbError (Option User)
  getUserGroups : Int → Except DbError (List Group)
  getAclRules : Except DbError (List AclRule)

end RdGateway.Core
