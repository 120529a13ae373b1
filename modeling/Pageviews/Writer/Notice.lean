import Pageviews.Writer.State

/-! The log records of the writer. -/
namespace Pageviews.Writer

def Trigger.name : Trigger → String
  | size => "Size"
  | age => "Age"
  | shutdown => "Shutdown"

namespace Notice

def toRecord : Notice → Log.Record
  | configured policy =>
    ⟨.info, "Pageview writer configured",
      [("queue_capacity", .number policy.capacity), ("max_batch_size", .number policy.batchSize),
        ("max_batch_age_ms", .number policy.batchAge)]⟩
  | draining => ⟨.info, "Pageview writer received shutdown signal, draining queue...", []⟩
  | batchSent rows trigger age =>
    ⟨.debug, "Pageview batch sent",
      [("rows", .number rows), ("trigger", .text trigger.name), ("age_ms", .number age)]⟩
  | stopped batches rows =>
    ⟨.info, "Pageview writer stopped",
      [("batches_sent", .number batches), ("rows_sent", .number rows)]⟩
  | failed failure batches rows =>
    ⟨.error, "Pageview writer failed",
      [("error", .text failure.message), ("batches_sent", .number batches),
        ("rows_sent", .number rows)]⟩

def isBatchSent : Notice → Bool
  | batchSent .. => true
  | _ => false

end Notice
end Pageviews.Writer
