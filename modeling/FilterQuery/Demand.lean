import FilterQuery.Config.Basic
import FilterQuery.Query

/-!
# Demands

A demand is what a user asks for: filter tokens and, when the defaults of the configuration will
not do, a size and a timeframe. It is compiled into a query unless its size is above the limit of
the configuration.
-/

set_option autoImplicit false

namespace FilterQuery

structure Demand where
  filters : List String
  size : Option Int
  timeframe : Option String
  now : Moment

def Demand.compile (settings : SearchSettings) (cache : Field.Cache) (demand : Demand) :
    Except QueryFault Query :=
  let size := demand.size.getD settings.defaultSize
  if settings.maxResults < size then
    .error (.ofError (.sizeTooLarge size settings.maxResults))
  else
    Query.build demand.filters size (demand.timeframe.getD settings.defaultTimeframe) cache
      demand.now

end FilterQuery
