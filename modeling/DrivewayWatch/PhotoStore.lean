import DrivewayWatch.Text.Utf8
import DrivewayWatch.Time.Instant

/-!
# The photo store

Photos of announced arrivals, kept for a day under the id of the notification so that its link can
be followed.  A record is expired once its time has passed; it is removed at the next pruning.
-/

namespace DrivewayWatch

/-- A photo that can be looked up; an arrival without a picture leaves a record without one. -/
structure PhotoRecord (T : Type) where
  id : String
  expires : T
  photo : Option Bytes
  deriving Repr, DecidableEq

namespace PhotoRecord

variable {T : Type} [Timeline T]

/-- For how many seconds a photo is kept. -/
def retention : Int :=
  24 * 3600

/-- The record of a photo that was taken at a given time, if the end of its day can be named. -/
def new? (id : String) (taken : T) (photo : Option Bytes) : Option (PhotoRecord T) :=
  (Timeline.inSeconds? taken retention).map fun expires => ⟨id, expires, photo⟩

def isExpired (record : PhotoRecord T) (now : T) : Bool :=
  record.expires < now

end PhotoRecord

/-- The photos that are kept, one record for an id. -/
structure PhotoStore (T : Type) where
  records : List (PhotoRecord T)
  deriving Repr, DecidableEq

namespace PhotoStore

variable {T : Type}

def empty : PhotoStore T :=
  ⟨[]⟩

def get? (store : PhotoStore T) (id : String) : Option (PhotoRecord T) :=
  store.records.find? (·.id == id)

/-- Whether there is a record of an id, expired or not. -/
def contains (store : PhotoStore T) (id : String) : Bool :=
  (store.get? id).isSome

/-- The store with a record, in place of an earlier one with the same id. -/
def insert (store : PhotoStore T) (record : PhotoRecord T) : PhotoStore T :=
  ⟨store.records.filter (·.id != record.id) ++ [record]⟩

/-- The store without the records that are expired. -/
def prune [Timeline T] (store : PhotoStore T) (now : T) : PhotoStore T :=
  ⟨store.records.filter fun record => !record.isExpired now⟩

def expiredCount [Timeline T] (store : PhotoStore T) (now : T) : Nat :=
  store.records.countP fun record => record.isExpired now

end PhotoStore

end DrivewayWatch
