/-!
# The toolkit

The calls of the user-interface toolkit that the recovery understands, by signature, and the
toolkit's widget classes. A signature is the whole text `ret name(p1,p2)` without the declaring
class, and is matched as it stands.
-/

namespace UiRecovery.Toolkit

/-! ## Structure -/

/-- Attach a child to a container. -/
def addView : List String :=
  [
    "void addView(android.view.View,android.view.ViewGroup$LayoutParams)",
    "void addView(android.view.View,int)",
    "void addView(android.view.View,int,android.view.ViewGroup$LayoutParams)",
    "void addView(android.view.View)",
    "void addView(android.view.View,int,int)",
    "void addHeaderView(android.view.View)"
  ]

/-- Make the view of one row of a list. -/
def adapterRow : List String :=
  [
    "android.view.View getView(int,android.view.View,android.view.ViewGroup)",
    "android.view.View " ++
      "newView(android.content.Context,android.database.Cursor,android.view.ViewGroup)",
    "void bindView(android.view.View,android.content.Context,android.database.Cursor)"
  ]

/-- Make the widgets that a layout declares. -/
def inflate : List String :=
  [
    "android.view.View inflate(int,android.view.ViewGroup)",
    "android.view.View inflate(int,android.view.ViewGroup,boolean)",
    "void inflate(int,android.view.ViewGroup," ++
      "android.support.v4.view.AsyncLayoutInflater.OnInflateFinishedListener)",
    "android.view.View inflate(android.content.Context,int,android.view.ViewGroup)"
  ]

/-- Obtain the list of a list screen. -/
def listView : List String :=
  ["android.widget.ListView getListView()"]

/-- Look a view up by its id. -/
def findById : List String :=
  ["android.view.View findViewById(int)"]

/-- The name of the method that gives a child by position. -/
def childAtName : String := "getChildAt"

/-- Show a layout as the content of a screen. -/
def showLayout : String := "void setContentView(int)"

/-- Show a widget as the content of a screen. -/
def showWidget : List String :=
  [
    "void setContentView(android.view.View)",
    "void setContentView(android.view.View,android.view.ViewGroup$LayoutParams)"
  ]

/-- Put a fragment into a screen. -/
def fragmentTransaction : List String :=
  [
    "android.app.FragmentTransaction add(android.app.Fragment,java.lang.String)",
    "android.app.FragmentTransaction add(int,android.app.Fragment,java.lang.String)",
    "android.app.FragmentTransaction add(int,android.app.Fragment)",
    "android.app.FragmentTransaction replace(int,android.app.Fragment,java.lang.String)",
    "android.app.FragmentTransaction replace(int,android.app.Fragment)",
    "android.support.v4.app.FragmentTransaction " ++
      "add(android.support.v4.app.Fragment,java.lang.String)",
    "android.support.v4.app.FragmentTransaction " ++
      "add(int,android.support.v4.app.Fragment,java.lang.String)",
    "android.support.v4.app.FragmentTransaction add(int,android.support.v4.app.Fragment)",
    "android.support.v4.app.FragmentTransaction " ++
      "replace(int,android.support.v4.app.Fragment,java.lang.String)",
    "android.support.v4.app.FragmentTransaction replace(int,android.support.v4.app.Fragment)"
  ]

/-! ## Menus -/

/-- Fill a menu from a resource. -/
def inflateMenu : String := "void inflate(int,android.view.Menu)"

/-- The callback that fills the options menu. -/
def onCreateOptionsMenu : String := "boolean onCreateOptionsMenu(android.view.Menu)"

/-- The callback that fills a context menu. -/
def onCreateContextMenu : String :=
  "void onCreateContextMenu(android.view.ContextMenu,android.view.View," ++
    "android.view.ContextMenu.ContextMenuInfo)"

/-- The callback that fills a panel menu. -/
def onCreatePanelMenu : String := "boolean onCreatePanelMenu(int,android.view.Menu)"

/-- The callback for items of options and panel menus. -/
def onOptionsItemSelected : String := "boolean onOptionsItemSelected(android.view.MenuItem)"

/-- The callback for items of context menus. -/
def onContextItemSelected : String := "boolean onContextItemSelected(android.view.MenuItem)"

/-! ## Setters -/

/-- Set a text. -/
def textSetters : List String :=
  [
    "void setText(int)",
    "void setText(java.lang.CharSequence)",
    "void setText(java.lang.CharSequence,android.widget.TextView.BufferType)",
    "void setText(int,android.widget.TextView.BufferType)",
    "void setTextKeepState(java.lang.CharSequence)",
    "void setTextKeepState(java.lang.CharSequence,android.widget.TextView.BufferType)",
    "void setHint(int)",
    "void setHint(java.lang.CharSequence)",
    "void setError(java.lang.CharSequence)",
    "void setContentDescription(java.lang.CharSequence)",
    "void setTooltipText(java.lang.CharSequence)"
  ]

/-- Say what a text field expects. -/
def inputTypeSetters : List String :=
  ["void setInputType(int)"]

/-- Set an image. -/
def imageSetters : List String :=
  [
    "void setImageDrawable(android.graphics.drawable.Drawable)",
    "void setImageResource(int)",
    "void setBackgroundDrawable(android.graphics.drawable.Drawable)",
    "void setBackground(android.graphics.drawable.Drawable)",
    "void setForeground(android.graphics.drawable.Drawable)"
  ]

/-- Bind a listener. -/
def listenerSetters : List String :=
  [
    "void setOnClickListener(android.view.View$OnClickListener)",
    "void setOnLongClickListener(android.view.View$OnLongClickListener)",
    "void setOnTouchListener(android.view.View$OnTouchListener)",
    "void setOnKeyListener(android.view.View$OnKeyListener)",
    "void setOnFocusChangeListener(android.view.View$OnFocusChangeListener)",
    "void setOnItemClickListener(android.widget.AdapterView$OnItemClickListener)",
    "void setOnItemLongClickListener(android.widget.AdapterView$OnItemLongClickListener)",
    "void setOnItemSelectedListener(android.widget.AdapterView$OnItemSelectedListener)",
    "void setOnCheckedChangeListener(android.widget.CompoundButton$OnCheckedChangeListener)",
    "void setOnCheckedChangeListener(android.widget.RadioGroup$OnCheckedChangeListener)",
    "void setOnEditorActionListener(android.widget.TextView$OnEditorActionListener)",
    "void setOnSeekBarChangeListener(android.widget.SeekBar$OnSeekBarChangeListener)",
    "void addTextChangedListener(android.text.TextWatcher)"
  ]

/-! ## Dialog builders -/

/-- Set the title of a dialog. -/
def dialogTitle : List String :=
  [
    "android.app.AlertDialog$Builder setTitle(java.lang.CharSequence)",
    "android.support.v7.app.AlertDialog$Builder setTitle(java.lang.CharSequence)",
    "android.app.AlertDialog$Builder setTitle(int)",
    "android.support.v7.app.AlertDialog$Builder setTitle(int)"
  ]

/-- Set the message of a dialog. -/
def dialogMessage : List String :=
  [
    "android.app.AlertDialog$Builder setMessage(java.lang.CharSequence)",
    "android.support.v7.app.AlertDialog$Builder setMessage(java.lang.CharSequence)",
    "android.app.AlertDialog$Builder setMessage(int)",
    "android.support.v7.app.AlertDialog$Builder setMessage(int)"
  ]

/-- Set the icon of a dialog. -/
def dialogIcon : List String :=
  [
    "android.app.AlertDialog$Builder setIcon(int)",
    "android.support.v7.app.AlertDialog$Builder setIcon(int)"
  ]

/-- Add a button to a dialog. -/
def dialogButton : List String :=
  [
    "android.app.AlertDialog$Builder " ++
      "setPositiveButton(int,android.content.DialogInterface$OnClickListener)",
    "android.support.v7.app.AlertDialog$Builder " ++
      "setPositiveButton(int,android.content.DialogInterface$OnClickListener)",
    "android.app.AlertDialog$Builder " ++
      "setPositiveButton(java.lang.CharSequence,android.content.DialogInterface$OnClickListener)",
    "android.support.v7.app.AlertDialog$Builder " ++
      "setPositiveButton(java.lang.CharSequence,android.content.DialogInterface$OnClickListener)",
    "android.app.AlertDialog$Builder " ++
      "setNegativeButton(int,android.content.DialogInterface$OnClickListener)",
    "android.support.v7.app.AlertDialog$Builder " ++
      "setNegativeButton(int,android.content.DialogInterface$OnClickListener)",
    "android.app.AlertDialog$Builder " ++
      "setNegativeButton(java.lang.CharSequence,android.content.DialogInterface$OnClickListener)",
    "android.support.v7.app.AlertDialog$Builder " ++
      "setNegativeButton(java.lang.CharSequence,android.content.DialogInterface$OnClickListener)",
    "android.app.AlertDialog$Builder " ++
      "setNeutralButton(int,android.content.DialogInterface$OnClickListener)",
    "android.support.v7.app.AlertDialog$Builder " ++
      "setNeutralButton(int,android.content.DialogInterface$OnClickListener)",
    "android.app.AlertDialog$Builder " ++
      "setNeutralButton(java.lang.CharSequence,android.content.DialogInterface$OnClickListener)",
    "android.support.v7.app.AlertDialog$Builder " ++
      "setNeutralButton(java.lang.CharSequence,android.content.DialogInterface$OnClickListener)"
  ]

/-! ## Classes -/

/-- Packages whose constructors make widgets. -/
def viewPackages : List String :=
  [
    "android.widget.",
    "android.view.",
    "android.support.",
    "androidx.",
    "com.google.android.material."
  ]

/-- Classes of text widgets. -/
def textClasses : List String :=
  [
    "android.widget.TextView",
    "android.widget.EditText",
    "android.widget.AutoCompleteTextView",
    "android.widget.MultiAutoCompleteTextView",
    "android.widget.Button",
    "android.widget.CheckBox",
    "android.widget.RadioButton",
    "android.widget.Switch",
    "android.widget.ToggleButton",
    "android.support.v7.widget.AppCompatEditText",
    "android.support.v7.widget.AppCompatTextView",
    "android.support.v7.widget.AppCompatButton",
    "androidx.appcompat.widget.AppCompatEditText",
    "androidx.appcompat.widget.AppCompatTextView",
    "androidx.appcompat.widget.AppCompatButton",
    "com.google.android.material.textfield.TextInputEditText"
  ]

/-- Classes of containers. -/
def groupClasses : List String :=
  [
    "android.view.ViewGroup",
    "android.widget.LinearLayout",
    "android.widget.RelativeLayout",
    "android.widget.FrameLayout",
    "android.widget.TableLayout",
    "android.widget.TableRow",
    "android.widget.GridLayout",
    "android.widget.ScrollView",
    "android.widget.HorizontalScrollView",
    "android.widget.ListView",
    "android.widget.GridView",
    "android.widget.Spinner",
    "android.widget.RadioGroup",
    "android.widget.TabHost",
    "android.support.v7.widget.RecyclerView",
    "android.support.constraint.ConstraintLayout",
    "androidx.recyclerview.widget.RecyclerView",
    "androidx.constraintlayout.widget.ConstraintLayout",
    "androidx.coordinatorlayout.widget.CoordinatorLayout"
  ]

/-- Classes whose attributes are of no interest. -/
def ignoredClasses : List String :=
  [
    "android.widget.ProgressBar",
    "android.webkit.WebView"
  ]

/-- Classes that build dialogs. -/
def dialogBuilders : List String :=
  [
    "android.app.AlertDialog$Builder",
    "android.support.v7.app.AlertDialog$Builder",
    "androidx.appcompat.app.AlertDialog$Builder"
  ]

/-- The class of the list of a list screen. -/
def listClass : String := "android.widget.ListView"

/-- The class of a widget of which nothing more is known. -/
def viewClass : String := "android.view.View"

/-! ## Parameter types -/

def intParam : String := "int"

def stringParam : String := "java.lang.String"

def booleanParam : String := "boolean"

def containerParam : String := "android.view.ViewGroup"

end UiRecovery.Toolkit
