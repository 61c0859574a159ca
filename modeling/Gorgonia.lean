import Gorgonia.GoValues
import Gorgonia.CmpKernels
import Gorgonia.KernelFile
import Gorgonia.Orders
import Gorgonia.FloatValues
import Gorgonia.GoAst
import Gorgonia.ConstTypes
import Gorgonia.ApiNames
import Gorgonia.Template
import Gorgonia.TemplateParse
import Gorgonia.GenApi
import Gorgonia.Declared
import Gorgonia.Paths
