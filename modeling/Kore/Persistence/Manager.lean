import Kore.Persistence.Aof

/-! The persistence manager: the hook that every logged write goes through, and the
rewrite that replaces the file behind it. A file is an inode; a rename gives the path a
new one, while an open writer keeps the old. -/

namespace Kore.Persistence
open Foundation Protocol

structure Disk where
  contents : Nat → Bytes
  aofPath : Option Nat
  nextInode : Nat
  issued : ∀ inode ∈ aofPath, inode < nextInode

variable (manager : PersistenceManager) (disk : Disk)

namespace Disk

def empty : Disk where
  contents _ := []
  aofPath := none
  nextInode := 0
  issued _ member := by cases member

def create (data : Bytes) : Disk where
  contents := fun inode => if inode = disk.nextInode then data else disk.contents inode
  aofPath := some disk.nextInode
  nextInode := disk.nextInode + 1
  issued := by
    intro inode member
    cases member
    exact Nat.lt_succ_self _

def openAof : Disk × Nat :=
  match disk.aofPath with
  | some inode => (disk, inode)
  | none => (disk.create [], disk.nextInode)

def append (inode : Nat) (data : Bytes) : Disk :=
  { disk with contents := fun other => if other = inode then disk.contents other ++ data else disk.contents other }

def writeAofBuffer (buf : Bytes) : Disk := disk.create buf

def readAof : Bytes := (disk.aofPath.map disk.contents).getD []

end Disk

structure PersistenceManager where
  appendonly : Bool
  writer : Option Nat
  selectedDb : Option Nat
  dirtyChanges : Nat
  replication : ReplicationManager

namespace PersistenceManager

def new (appendonly : Bool) (replid : ReplId) (capacity : Nat) (disk : Disk) : PersistenceManager × Disk :=
  if appendonly then
    (⟨appendonly, some disk.openAof.2, none, 0, .new replid capacity⟩, disk.openAof.1)
  else (⟨appendonly, none, none, 0, .new replid capacity⟩, disk)

def markDirty : PersistenceManager :=
  { manager with dirtyChanges := wrapAdd manager.dirtyChanges 1 }

def appendCommand (args : List Bytes) : Disk :=
  match manager.writer with
  | some inode => disk.append inode (encodeCommand args)
  | none => disk

def recordCommand (selectedDb : Nat) (args : List Bytes) : Disk :=
  if ReplBacklog.emitsSelect manager.selectedDb selectedDb then
    manager.appendCommand (manager.appendCommand disk [ascii "SELECT", decimal selectedDb]) args
  else manager.appendCommand disk args

def onWriteCommand (selectedDb : Nat) (args : List Bytes) :
    PersistenceManager × Disk :=
  let dirty := manager.markDirty
  let published := dirty.replication.propagateWrite selectedDb args
  if dirty.appendonly then
    ({ dirty with selectedDb := some selectedDb, replication := published }, dirty.recordCommand disk selectedDb args)
  else ({ dirty with replication := published }, disk)

/-- The end of a rewrite, under the lock that orders appends. -/
def reopenWriter : PersistenceManager × Disk :=
  if manager.appendonly then ({ manager with writer := some disk.openAof.2, selectedDb := none }, disk.openAof.1)
  else ({ manager with selectedDb := none }, disk)

def rewriteAof (libraries : List Bytes) (databases : List DbSnapshot) :
    PersistenceManager × Disk :=
  manager.reopenWriter (disk.writeAofBuffer (Aof.encodeCommands (Aof.rewriteDatabases libraries databases)))

end PersistenceManager
end Kore.Persistence
