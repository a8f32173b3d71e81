import BucketStore.Store.Store

namespace BucketStore

inductive Operation where
  | saveUsers (users : List Store.UserEntry)
  | insertAverages (entries : List (BucketKey × Averaged)) (g : Granularity)
  | selectPoints (since limit : Int) (g : Granularity)
  | purge (now : Option Moment)
  | executeSql (sql : String)

inductive Answer where
  | summary (result : BatchResult)
  | points (points : List Point)

def Operation.perform {σ : Type} [Surroundings σ] (m : Manager) (policy : Policy) :
    Operation → Action σ Answer
  | .saveUsers users => return .summary (← Store.saveUsers m users policy)
  | .insertAverages entries g => return .summary (← Store.insertAverages m entries g policy)
  | .selectPoints since limit g => return .points (← Store.selectPoints m since limit g policy)
  | .purge now => return .summary (← Store.purge m now policy)
  | .executeSql sql => return .summary (← Store.executeSql m sql policy)

end BucketStore
