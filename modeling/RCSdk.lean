import RCSdk.Proof.ProxyTable
import RCSdk.Proof.CacheKey
import RCSdk.Proof.Lookup
import RCSdk.Proof.Conservation
import RCSdk.Proof.Delivery
import RCSdk.Proof.Blocks
import RCSdk.Proof.RequestIds
import RCSdk.Proof.Cancel
import RCSdk.Proof.Admission
import RCSdk.Proof.History
import RCSdk.Proof.TierAgreement
import RCSdk.Proof.OutcomeFrame
import RCSdk.Proof.HookOrder
import RCSdk.Proof.BackgroundTask
import RCSdk.Proof.StopBGRun
import RCSdk.Proof.KeyBoardHandOver
import RCSdk.Proof.DateCoverage
import RCSdk.Proof.DateWheels
import RCSdk.Proof.CascadeSafety
import RCSdk.Proof.CascadeAgreement
import RCSdk.Proof.Selection
import RCSdk.Proof.TapDelivery
import RCSdk.Proof.DepartSelect
import RCSdk.Proof.TabIndex
import RCSdk.Proof.DateOrder
import RCSdk.Proof.KeyOrder
import RCSdk.Proof.DiskRoundTrip
import RCSdk.Proof.DemoService
import RCSdk.Proof.Channels
import RCSdk.Proof.NeutralCollaborators
import RCSdk.Proof.TokenNotification
import RCSdk.Proof.Encoders
import RCSdk.Proof.DefaultValue
import RCSdk.Proof.CleanAll
import RCSdk.Proof.CurlReplay
import RCSdk.Proof.TabBarButtons
import RCSdk.Proof.DateSelect
import RCSdk.Proof.DateLast
import RCSdk.Proof.DateColumns
import RCSdk.Proof.CascadeLast
import RCSdk.Proof.SinglePicker
import RCSdk.Proof.DateRounding
import RCSdk.Proof.MonthWindows
import RCSdk.Proof.SortBarFirst
import RCSdk.Proof.GridLayout
import RCSdk.Proof.PasswordInput
import RCSdk.Proof.EditUnit
import RCSdk.Proof.KeyBoardInput
import RCSdk.Proof.QuickSort
import RCSdk.Proof.ParamsString
import RCSdk.Proof.ExternView
import RCSdk.Proof.KeyboardAvoidance
import RCSdk.Proof.EventThrottle
import RCSdk.Proof.CellHeights
import RCSdk.Proof.AutoLayoutPass
import RCSdk.Proof.KeyboardTelling
import RCSdk.Proof.CacheFreshness
import RCSdk.Proof.AttributedDetection
import RCSdk.Proof.AttributedAttachments
import RCSdk.Proof.FlowArrangement
import RCSdk.Proof.FlowFrames
import RCSdk.Proof.FlowHeight
