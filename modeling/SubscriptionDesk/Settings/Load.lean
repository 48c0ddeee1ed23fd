import SubscriptionDesk.Settings.Reader
import SubscriptionDesk.Volume

namespace SubscriptionDesk.Settings

def standardPath : String := "data-delivery.toml"

def longestPath : Nat := 4096

def longestPathPart : Nat := 255

def largestFile : Nat := 1024 * 1024

/-- A path that is given comes before the one that the environment names. -/
def pathOf (given environment : Option String) : String :=
  given.getD (environment.getD standardPath)

def checkPath (path : String) : Except SettingsFault Unit :=
  if longestPath < path.utf8ByteSize then .error (.invalid "config path exceeds max length")
  else if (Volume.parts path).any fun part => decide (longestPathPart < part.utf8ByteSize) then
    .error (.invalid "config path component too long")
  else .ok ()

def textOf (contents : ByteArray) : Except SettingsFault String :=
  if largestFile < contents.size then .error (.invalid "config file exceeds size limit")
  else
    match String.fromUTF8? contents with
    | some text => .ok text
    | none => .error (.invalid "config file must be utf-8")

def load (volume : Volume) (given environment : Option String) : Except SettingsFault Settings := do
  let path := pathOf given environment
  checkPath path
  match volume.read? path with
  | none => .error .unreadable
  | some contents => parse (← textOf contents)

end SubscriptionDesk.Settings
