import Kore.Commands.KeySpecs

/-! Users and the permission check that stands before every command. -/

namespace Kore.Commands
open Foundation Protocol Cache

structure AclUser where
  enabled : Bool
  allCommands : Bool
  allowedCommands : List Bytes
  disallowedCommands : List Bytes
  allKeys : Bool
  keyPatterns : List Bytes
  allChannels : Bool
  channelPatterns : List Bytes

/-- The matching loop on what is left of the pattern and of the text, and on what was left
of both after the last star. -/
def globLoop : Nat → Bytes → Bytes → Option (Bytes × Bytes) → Bool
  | 0, _, _, _ => false
  | _, pattern, [], _ => pattern.all (· == 42)
  | fuel + 1, pattern, byte :: text, star =>
    match pattern, star with
    | symbol :: pattern, star =>
      if symbol = 63 ∨ symbol = byte then globLoop fuel pattern text star
      else if symbol = 42 then globLoop fuel pattern (byte :: text) (some (pattern, byte :: text))
      else match star with
        | some (pattern, _ :: text) => globLoop fuel pattern text (some (pattern, text))
        | _ => false
    | [], some (pattern, _ :: text) => globLoop fuel pattern text (some (pattern, text))
    | [], _ => false

def globMatch (pattern text : Bytes) : Bool :=
  globLoop ((text.length + 1) * (pattern.length + text.length + 1)) pattern text none

namespace AclUser

variable (user : AclUser)

def canExecute (command : Bytes) : Bool :=
  if user.allCommands && user.disallowedCommands.isEmpty then true
  else if user.disallowedCommands.contains command then false
  else user.allCommands || user.allowedCommands.contains command

def isUnrestricted : Bool :=
  user.enabled && user.allCommands && user.disallowedCommands.isEmpty && user.allKeys && user.allChannels

def canAccessKey (key : Bytes) : Bool := user.allKeys || user.keyPatterns.any (globMatch · key)

def canAccessChannel (channel : Bytes) : Bool :=
  user.allChannels || user.channelPatterns.any (globMatch · channel)

end AclUser

abbrev Acl := FiniteMap Bytes AclUser

namespace Acl

def grants (acl : Acl) (username : Bytes) (may : AclUser → Bool) : Bool := (acl.lookup username).any may

end Acl

def extractPubsubChannels (name : Bytes) (args : List RespValue) : Option (List Bytes) :=
  if [ascii "SUBSCRIBE", ascii "UNSUBSCRIBE", ascii "SSUBSCRIBE", ascii "SUNSUBSCRIBE", ascii "SPUBLISH", ascii "PSUBSCRIBE",
      ascii "PUNSUBSCRIBE"].contains name then
    some (args.filterMap RespValue.asBulkString)
  else if name = ascii "PUBLISH" then some (firstKey args)
  else none

def checkAclPermission (acl : Acl) (username name : Bytes) (args : List RespValue) : Option Denial :=
  if acl.grants username AclUser.isUnrestricted then none
  else if !acl.grants username (·.canExecute (lower name)) then some (.aclCommand name)
  else if (requestKeys name args).any fun key => !acl.grants username (·.canAccessKey (lossy key)) then some .aclKey
  else if ((extractPubsubChannels name args).getD []).any fun channel => !acl.grants username (·.canAccessChannel (lossy channel)) then
    some .aclChannel
  else none

end Kore.Commands
